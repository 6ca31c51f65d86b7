/-
This file is about when the reaper tries a row again.

The delay of `backoffDelay` doubles with each attempt up to ten minutes. A push waits the first of
these delays, and `attemptOne` after a failure the one of the retry count that the row was listed
with.
-/

import MqConnector.RetryBound
import Mathlib.Algebra.Order.Ring.Int

namespace MqConnector

/-! ### The delays -/

/-- The base of the delays in milliseconds: 0 stands for 5000. -/
def backoffBase (baseMs : Int) : Int :=
  if baseMs ≤ 0 then 5000 else baseMs

/-- The delay that is documented for an attempt, in nanoseconds. -/
def exponentialDelay (baseMs : Int) (attempt : Nat) : Int :=
  min 600000 (backoffBase baseMs * 2 ^ attempt) * 1000000

section Delays

variable {baseMs : Int}

theorem backoffBase_pos (baseMs : Int) : 0 < backoffBase baseMs := by
  rw [backoffBase]
  split
  · decide
  · omega

theorem backoffBase_le (bounded : baseMs ≤ 600000) : backoffBase baseMs ≤ 600000 := by
  rw [backoffBase]
  split
  · decide
  · exact bounded

theorem shifted_lt (bounded : baseMs ≤ 600000) (attempt : Nat) :
    backoffBase baseMs * 2 ^ min attempt 30 < 2 ^ 63 := by
  have shift : (2 : Int) ^ min attempt 30 ≤ 2 ^ 30 := pow_le_pow_right₀ one_le_two (min_le_right attempt 30)
  calc backoffBase baseMs * 2 ^ min attempt 30
      ≤ 600000 * 2 ^ 30 := mul_le_mul (backoffBase_le bounded) shift (pow_nonneg zero_le_two _) (by decide)
    _ < 2 ^ 63 := by decide

theorem shifted_pos (baseMs : Int) (attempt : Nat) : 0 < backoffBase baseMs * 2 ^ attempt :=
  mul_pos (backoffBase_pos baseMs) (pow_pos two_pos attempt)

theorem min_shifted (baseMs : Int) (attempt : Nat) :
    min 600000 (backoffBase baseMs * 2 ^ min attempt 30) = min 600000 (backoffBase baseMs * 2 ^ attempt) := by
  by_cases early : attempt ≤ 30
  · rw [min_eq_left early]
  · have late : 30 ≤ attempt := by omega
    have cap : (600000 : Int) ≤ backoffBase baseMs * 2 ^ 30 := by
      have base := backoffBase_pos baseMs
      omega
    have grown : backoffBase baseMs * 2 ^ 30 ≤ backoffBase baseMs * 2 ^ attempt :=
      mul_le_mul_of_nonneg_left (pow_le_pow_right₀ one_le_two late) (backoffBase_pos baseMs).le
    rw [min_eq_right late, min_eq_left cap, min_eq_left (cap.trans grown)]

theorem backoffDelay_eq (bounded : baseMs ≤ 600000) (attempt : Nat) :
    backoffDelay attempt baseMs = exponentialDelay baseMs attempt := by
  have below := shifted_lt bounded attempt
  have above := shifted_pos baseMs (min attempt 30)
  have exact : Int.bmod (backoffBase baseMs * 2 ^ min attempt 30) (2 ^ 64) =
      backoffBase baseMs * 2 ^ min attempt 30 :=
    Int.bmod_eq_of_le (by omega) (by omega)
  show (if 600000 < Int.bmod (backoffBase baseMs * 2 ^ min attempt 30) (2 ^ 64) ∨
      Int.bmod (backoffBase baseMs * 2 ^ min attempt 30) (2 ^ 64) < 0 then 600000
    else Int.bmod (backoffBase baseMs * 2 ^ min attempt 30) (2 ^ 64)) * 1000000 = _
  rw [exact, exponentialDelay, ← min_shifted]
  split
  case isTrue outside =>
    have capped : 600000 ≤ backoffBase baseMs * 2 ^ min attempt 30 := by omega
    rw [min_eq_left capped]
  case isFalse inside =>
    have uncapped : backoffBase baseMs * 2 ^ min attempt 30 ≤ 600000 := by omega
    rw [min_eq_right uncapped]

theorem exponentialDelay_mono (baseMs : Int) {first second : Nat} (earlier : first ≤ second) :
    exponentialDelay baseMs first ≤ exponentialDelay baseMs second := by
  have grown : backoffBase baseMs * 2 ^ first ≤ backoffBase baseMs * 2 ^ second :=
    mul_le_mul_of_nonneg_left (pow_le_pow_right₀ one_le_two earlier) (backoffBase_pos baseMs).le
  exact mul_le_mul_of_nonneg_right (min_le_min_left 600000 grown) (by decide)

theorem exponentialDelay_le (baseMs : Int) (attempt : Nat) :
    exponentialDelay baseMs attempt ≤ 600000000000 := by
  have cap : min 600000 (backoffBase baseMs * 2 ^ attempt) ≤ 600000 := min_le_left _ _
  rw [exponentialDelay]
  omega

theorem exponentialDelay_nonneg (baseMs : Int) (attempt : Nat) : 0 ≤ exponentialDelay baseMs attempt :=
  mul_nonneg (le_min (by decide) (shifted_pos baseMs attempt).le) (by decide)

theorem exponentialDelay_eq_iff (baseMs : Int) {first second : Nat} (earlier : first ≤ second) :
    exponentialDelay baseMs first = exponentialDelay baseMs second ↔
      first = second ∨ 600000 ≤ backoffBase baseMs * 2 ^ first := by
  have positive := backoffBase_pos baseMs
  have grown : backoffBase baseMs * 2 ^ first ≤ backoffBase baseMs * 2 ^ second :=
    mul_le_mul_of_nonneg_left (pow_le_pow_right₀ one_le_two earlier) positive.le
  constructor
  · intro same
    by_cases equal : first = second
    · exact .inl equal
    · have later : first < second := by omega
      have more : backoffBase baseMs * 2 ^ first < backoffBase baseMs * 2 ^ second :=
        mul_lt_mul_of_pos_left (pow_lt_pow_right₀ one_lt_two later) positive
      rw [exponentialDelay, exponentialDelay] at same
      right
      omega
  · rintro (equal | capped)
    · rw [equal]
    · rw [exponentialDelay, exponentialDelay, min_eq_left capped, min_eq_left (capped.trans grown)]

end Delays

/-! ### What is put on the schedule -/

/-- A time that a step puts a row on the schedule for: the automatic attempts at the row before, the
backoff of its pipeline, the moment and the time. -/
structure Appointment where
  id : String
  attempts : Nat
  baseMs : Int
  now : Int
  next : Int
  deriving DecidableEq

/-- The delay lies where the documentation has it, with a jitter below the maximum. -/
def Appointment.Exponential (appointment : Appointment) (maxJitter : Int) : Prop :=
  exponentialDelay appointment.baseMs appointment.attempts ≤ appointment.next - appointment.now ∧
    appointment.next - appointment.now <
      exponentialDelay appointment.baseMs appointment.attempts + maxJitter

/-- The backoff of a pipeline, as `attemptOne` and `Push` read it. -/
def DlqState.retryBackoffMs {World Key Rule : Type} (db : DlqState World Key Rule) (pipelineID : String) : Int :=
  match db.store.pipelines.find? fun pipeline => pipeline.id = pipelineID with
  | some pipeline => pipeline.retryBackoffMs
  | none => 0

/-- The attempts of the reaper at a row so far. -/
def RetryState.automaticAttempts {World Key Rule : Type} (state : RetryState World Key Rule) (id : String) : Nat :=
  state.attempts.countP fun mark => mark.id == id

variable {World Document Key Rule : Type}

namespace DlqService

variable (service : DlqService World Document Key Rule)

/-- The time that a step puts a row on the schedule for, if it does. -/
def appointment (state : RetryState World Key Rule) : RetryLabel Key Rule → Option Appointment
  | .push entry answers =>
    if answers.inserted = false ∨ (state.db.rows.any fun held => held.row.id = answers.id) then none
    else
      (service.firstRetryAt state.db entry answers).map fun next =>
        { id := answers.id
          attempts := state.automaticAttempts answers.id
          baseMs := state.db.retryBackoffMs entry.pipelineID
          now := answers.now
          next := next }
  | .act caller (.close now jitter true) =>
    match state.phases caller with
    | .returned ⟨.reaper entry _, _, id⟩ result =>
      (rescheduled state.db entry now jitter result).map fun next =>
        { id := id
          attempts := state.automaticAttempts id
          baseMs := state.db.retryBackoffMs entry.entry.pipelineID
          now := now
          next := next }
    | _ => none
  | _ => none

variable {service} {state after : RetryState World Key Rule} {caller : Nat}

theorem appointment_push {entry : DLQEntry} {answers : PushAnswers} {made : Appointment}
    (appointed : service.appointment state (.push entry answers) = some made) :
    made.attempts = state.automaticAttempts answers.id ∧
      made.next = made.now + backoffDelay 0 made.baseMs := by
  rw [appointment] at appointed
  split at appointed
  case isTrue => cases appointed
  case isFalse =>
    obtain ⟨next, first, rfl⟩ := Option.map_eq_some_iff.mp appointed
    refine ⟨rfl, ?_⟩
    rw [firstRetryAt] at first
    split at first
    case isTrue => cases first
    case isFalse =>
      split at first
      case h_1 => cases first
      case h_2 pipeline found =>
        obtain ⟨-, same⟩ := Option.ite_none_right_eq_some.mp first
        show next = answers.now + backoffDelay 0 (state.db.retryBackoffMs entry.pipelineID)
        rw [DlqState.retryBackoffMs, found]
        exact (Option.some.inj same).symm

theorem appointment_close {tenantID id : String} {entry : DLQRow} {rest : List DLQRow}
    (returned : state.phases caller = .returned ⟨.reaper entry rest, tenantID, id⟩ .failed) (now jitter : Int) :
    service.appointment state (.act caller (.close now jitter true)) =
      some { id := id
             attempts := state.automaticAttempts id
             baseMs := state.db.retryBackoffMs entry.entry.pipelineID
             now := now
             next := now + backoffDelay entry.retryCount (state.db.retryBackoffMs entry.entry.pipelineID) +
               jitter } := by
  rw [appointment, returned]
  rfl

/-- The steps that appoint an attempt. -/
theorem appointment_cases {label : RetryLabel Key Rule} {made : Appointment}
    (appointed : service.appointment state label = some made) :
    (∃ entry answers, label = .push entry answers) ∨
      ∃ caller now jitter entry rest tenantID id, label = .act caller (.close now jitter true) ∧
        state.phases caller = .returned ⟨.reaper entry rest, tenantID, id⟩ .failed := by
  rw [appointment.eq_def] at appointed
  split at appointed
  case h_1 entry answers => exact .inl ⟨entry, answers, rfl⟩
  case h_2 caller now jitter =>
    split at appointed
    case h_1 entry rest tenantID id result returned =>
      cases result with
      | failed => exact .inr ⟨caller, now, jitter, entry, rest, tenantID, id, rfl, returned⟩
      | succeeded => cases appointed
      | maxRetries => cases appointed
    case h_2 => cases appointed
  case h_3 => cases appointed

theorem applyRedaction_nextRetryAt (keys : Option (KeyRing Key)) (rules : List Rule) (nonce : Option Bytes)
    (row : DLQRow) : (service.applyRedaction keys rules nonce row).nextRetryAt = row.nextRetryAt := by
  unfold applyRedaction
  split
  · rfl
  · split
    · split
      · rfl
      · rfl
    · rfl

theorem pushedRow_nextRetryAt (db : DlqState World Key Rule) (entry : DLQEntry) (answers : PushAnswers) :
    (service.pushedRow db entry answers).nextRetryAt = service.firstRetryAt db entry answers := by
  unfold pushedRow
  dsimp only
  split
  · rfl
  · rw [applyRedaction_nextRetryAt]

theorem appointment_stored {label : RetryLabel Key Rule} {made : Appointment} (kept : TableKept state)
    (fired : service.retryStep state label = some after) (appointed : service.appointment state label = some made) :
    after.db.Every made.id fun row => row.nextRetryAt = some made.next := by
  rcases appointment_cases appointed with
    ⟨entry, answers, rfl⟩ | ⟨caller, now, jitter, entry, rest, tenantID, id, rfl, returned⟩
  · rw [appointment] at appointed
    split at appointed
    case isTrue => cases appointed
    case isFalse inserts =>
      obtain ⟨next, first, rfl⟩ := Option.map_eq_some_iff.mp appointed
      rw [retryStep] at fired
      obtain ⟨-, same⟩ := Option.ite_none_left_eq_some.mp fired
      obtain rfl := Option.some.inj same
      intro held among named
      rw [show (service.push state.db entry answers).rows = _ from
        congrArg DlqState.rows (if_neg inserts)] at among
      rcases List.mem_append.mp among with stored | new
      · exact absurd (.inr (List.any_eq_true.mpr ⟨held, stored, decide_eq_true named⟩)) inserts
      · rw [List.mem_singleton.mp new]
        exact (pushedRow_nextRetryAt _ _ _).trans first
  · rw [appointment_close returned] at appointed
    obtain rfl := Option.some.inj appointed
    obtain ⟨moved, acted, rfl⟩ := Option.map_eq_some_iff.mp fired
    rw [returned] at acted
    obtain rfl := Option.some.inj acted
    have owned := kept.phases caller
    rw [returned] at owned
    obtain ⟨sameId, sameTenant⟩ := owned.reaping _ entry rest rfl rfl
    obtain ⟨-, -, ours⟩ := owned.listed entry List.mem_cons_self
    dsimp only at sameId sameTenant
    rw [← sameId, ← sameTenant] at ours
    have stored : state.db.Every id fun _ => True := fun _ _ _ => trivial
    exact DlqState.every_scheduleRetry_owned ours stored fun row _ => rfl

end DlqService

/-! ### A row that only the reaper retries -/

/-- Only one caller takes steps, and it calls `Retry` in its sweeps only. -/
def OnlyReaps (caller : Nat) : RetryLabel Key Rule → Prop
  | .act other action => other = caller ∧
    match action with
    | .retry _ _ | .bulk _ _ => False
    | _ => True
  | _ => True

/-- The attempt of this phase that is still to be counted. -/
def RetryPhase.uncounted (phase : RetryPhase) (id : String) : Nat :=
  match phase with
  | .calling call | .loaded call _ | .counting call _ _ => if call.id = id then 1 else 0
  | _ => 0

/-- Attempts count once at most, and a row is listed before the attempt. -/
structure TalliedRow (state : RetryState World Key Rule) (phase : RetryPhase) (id : String) : Prop where
  row : state.db.Every id fun row => row.retryCount + phase.uncounted id ≤ state.automaticAttempts id
  listed : ∀ entry ∈ phase.batch, entry.id = id → entry.retryCount ≤ state.automaticAttempts id
  current : ∀ call entry rest, phase.call = some call → call.loop = .reaper entry rest → entry.id = id →
    entry.retryCount < state.automaticAttempts id

/-- What the runs of one reaper keep. -/
structure ReaperKept (state : RetryState World Key Rule) (caller : Nat) : Prop where
  table : TableKept state
  known : ∀ mark ∈ state.attempts, mark.id ∈ state.issued
  sweeps : ∀ tenantID rest, state.phases caller ≠ .walking tenantID rest
  reaps : ∀ call, (state.phases caller).call = some call → call.loop.isReaper = true
  tallied : ∀ id, TalliedRow state (state.phases caller) id

section Reaper

variable {service : DlqService World Document Key Rule} {state after : RetryState World Key Rule} {caller : Nat}
  {phase next : RetryPhase} {action : RetryAction} {id : String}

theorem automaticAttempts_eq_zero (known : ∀ mark ∈ state.attempts, mark.id ∈ state.issued)
    (fresh : id ∉ state.issued) : state.automaticAttempts id = 0 := by
  refine List.countP_eq_zero.mpr fun mark among test => ?_
  exact fresh (beq_iff_eq.mp test ▸ known mark among)

theorem TalliedRow.mono (tallied : TalliedRow state phase id)
    (rows : state.db.Every id (fun row => row.retryCount + phase.uncounted id ≤ state.automaticAttempts id) →
      after.db.Every id fun row => row.retryCount + next.uncounted id ≤ state.automaticAttempts id)
    (attempts : after.attempts = state.attempts) (batch : ∀ entry ∈ next.batch, entry ∈ phase.batch)
    (calls : next.call = phase.call ∨ next.call = none) : TalliedRow after next id := by
  have same : after.automaticAttempts id = state.automaticAttempts id := congrArg _ attempts
  refine ⟨?_, ?_, ?_⟩
  · rw [same]
    exact rows tallied.row
  · rw [same]
    exact fun entry among => tallied.listed entry (batch entry among)
  · rw [same]
    intro call entry rest calling
    rcases calls with going | gone
    · exact tallied.current call entry rest (going ▸ calling)
    · rw [gone] at calling
      cases calling

theorem TalliedRow.move (tallied : TalliedRow state phase id)
    (counted : next.uncounted id ≤ phase.uncounted id)
    (batch : next.batch = phase.batch) (calls : next.call = phase.call) : TalliedRow state next id := by
  refine tallied.mono (fun rows held among named => ?_) rfl (fun entry among => batch ▸ among) (.inl calls)
  have before := rows held among named
  dsimp only at before ⊢
  omega

theorem automaticAttempts_cons (mark : AttemptMark) :
    ({ state with attempts := mark :: state.attempts } : RetryState World Key Rule).automaticAttempts id =
      state.automaticAttempts id + if mark.id = id then 1 else 0 := by
  show (mark :: state.attempts).countP (fun mark => mark.id == id) = _
  rw [List.countP_cons]
  simp only [beq_iff_eq]
  rfl

theorem tallied_attempt {entry : DLQRow} {rest : List DLQRow} {tenantID : String} {scheduled : Bool}
    (tallied : TalliedRow state (.sweeping (entry :: rest)) id) :
    TalliedRow { state with attempts := ⟨entry.id, scheduled⟩ :: state.attempts }
      (.calling ⟨.reaper entry rest, tenantID, entry.id⟩) id := by
  refine ⟨?_, ?_, ?_⟩
  · rw [automaticAttempts_cons]
    intro held among named
    have before : held.row.retryCount + 0 ≤ state.automaticAttempts id := tallied.row held among named
    show held.row.retryCount + (if entry.id = id then 1 else 0) ≤ _
    split
    · omega
    · omega
  · rw [automaticAttempts_cons]
    intro other among named
    exact (tallied.listed other among named).trans (Nat.le_add_right _ _)
  · rw [automaticAttempts_cons]
    intro call other others calling loop named
    obtain rfl := Option.some.inj calling
    obtain ⟨rfl, rfl⟩ := RetryLoop.reaper.inj loop
    have before := tallied.listed entry List.mem_cons_self named
    rw [if_pos named]
    omega

theorem tallied_increment {call : RetryCall} {held : HeldRow} {pipeline : Pipeline} {written : Bool}
    (tallied : TalliedRow state (.counting call held pipeline) id) :
    TalliedRow (DlqService.countCall state caller call written) (.counted call held pipeline) id := by
  refine tallied.mono (fun rows => ?_) ?_ (fun entry among => among) (.inl rfl)
  · cases written with
    | false =>
      intro other among named
      have before := rows other among named
      dsimp only at before ⊢
      exact Nat.le_of_add_right_le before
    | true =>
      intro other among named
      obtain ⟨stored, here, rfl⟩ := List.mem_map.mp among
      by_cases ours : stored.row.id = call.id ∧ stored.row.entry.tenantID = call.tenantID
      · rw [if_pos ours] at named ⊢
        have same : call.id = id := ours.1.symm.trans named
        have before : stored.row.retryCount + (if call.id = id then 1 else 0) ≤ _ := rows stored here named
        rw [if_pos same] at before
        exact before
      · rw [if_neg ours] at named ⊢
        exact Nat.le_of_add_right_le (rows stored here named)
  · cases written with
    | false => rfl
    | true => rfl

theorem tallied_close {entry : DLQRow} {rest : List DLQRow} {tenantID called : String} {result : RetryResult}
    {time : Option Int} {written : Bool}
    (tallied : TalliedRow state (.returned ⟨.reaper entry rest, tenantID, called⟩ result) id) :
    TalliedRow (if written then { state with db := state.db.scheduleRetry tenantID called time } else state)
      (.sweeping rest) id := by
  refine tallied.mono (fun rows => ?_) ?_ (fun other among => List.mem_cons_of_mem entry among) (.inr rfl)
  · split
    · exact DlqState.every_scheduleRetry (fun _ bounded => bounded) rows
    · exact rows
  · split
    · rfl
    · rfl

theorem move_tallied (move : service.RetryMove state caller phase action next after)
    (only : OnlyReaps caller (.act caller action : RetryLabel Key Rule))
    (reaps : ∀ call, phase.call = some call → call.loop.isReaper = true)
    (sweeps : ∀ tenantID rest, phase ≠ .walking tenantID rest) (tallied : TalliedRow state phase id) :
    TalliedRow after next id := by
  cases move with
  | retry | bulk => exact only.2.elim
  | walk tenantID called rest => exact absurd rfl (sweeps tenantID _)
  | closeHandler => exact absurd (reaps _ rfl) Bool.false_ne_true
  | closeBulk => exact absurd (reaps _ rfl) Bool.false_ne_true
  | reap now limit =>
    refine ⟨tallied.row, fun entry among named => ?_, fun call entry rest calling => nomatch calling⟩
    obtain ⟨⟨held, stored, rfl⟩, -⟩ := DlqState.mem_listDue among
    exact tallied.row held stored named
  | attempt entry rest => exact tallied_attempt tallied
  | leave between =>
    refine tallied.mono (fun rows held among named => ?_) rfl (fun entry among => nomatch among) (.inr rfl)
    exact (Nat.le_add_right _ _).trans (rows held among named)
  | increment written => exact tallied_increment tallied
  | closeReaper now jitter written => exact tallied_close tallied
  | load | pipeline => exact tallied.move le_rfl rfl rfl
  | refuse | loadFails | pipelineRefuses | pipelineFails => exact tallied.move (Nat.zero_le _) rfl rfl
  | connect | connectFails => exact tallied.move le_rfl rfl rfl
  | send sent => exact tallied.mono (fun rows => rows) rfl (fun entry among => among) (.inl rfl)

theorem move_reaps (move : service.RetryMove state caller phase action next after)
    (only : OnlyReaps caller (.act caller action : RetryLabel Key Rule))
    (reaps : ∀ call, phase.call = some call → call.loop.isReaper = true)
    (sweeps : ∀ tenantID rest, phase ≠ .walking tenantID rest) :
    (∀ call, next.call = some call → call.loop.isReaper = true) ∧ ∀ tenantID rest, next ≠ .walking tenantID rest := by
  cases move with
  | retry | bulk => exact only.2.elim
  | walk tenantID called rest => exact absurd rfl (sweeps tenantID _)
  | closeHandler => exact absurd (reaps _ rfl) Bool.false_ne_true
  | closeBulk => exact absurd (reaps _ rfl) Bool.false_ne_true
  | attempt entry rest =>
    refine ⟨fun call calling => ?_, fun _ _ walking => nomatch walking⟩
    obtain rfl := Option.some.inj calling
    rfl
  | reap | leave | closeReaper => exact ⟨fun call calling => (nomatch calling), fun _ _ walking => nomatch walking⟩
  | load | refuse | loadFails | pipeline | pipelineRefuses | pipelineFails | increment | connect | connectFails
  | send => exact ⟨fun call calling => reaps call calling, fun _ _ walking => nomatch walking⟩

theorem outside_tallied (table : TableKept state) (outside : Outside state after)
    (fresh : id ∉ state.issued → phase.uncounted id = 0)
    (tallied : TalliedRow state phase id) : TalliedRow after phase id := by
  refine tallied.mono (fun rows => ?_) outside.attempts (fun entry among => among) (.inl rfl)
  by_cases issued : id ∈ state.issued
  · exact outside.every id issued _ (fun row bounded => bounded) rows
  · intro held among named
    rcases outside.added held among with old | ⟨-, count⟩
    · obtain ⟨key, stored, same⟩ := List.mem_map.mp old
      exact absurd (named ▸ same ▸ table.rows.known key stored) issued
    · rw [count, fresh issued]
      exact Nat.zero_le _

theorem ReaperKept.uncounted_eq_zero (kept : ReaperKept state caller) (fresh : id ∉ state.issued) :
    (state.phases caller).uncounted id = 0 := by
  have owned := kept.table.phases caller
  have reaps := kept.reaps
  have called : ∀ call, (state.phases caller).call = some call → call.id ≠ id := by
    intro call calling same
    exact fresh (same ▸ (owned.reaperOwned calling (reaps call calling)).2.1)
  generalize state.phases caller = phase at called
  cases phase with
  | calling call => exact if_neg (called call rfl)
  | loaded call => exact if_neg (called call rfl)
  | counting call => exact if_neg (called call rfl)
  | idle | walking | sweeping | counted | sending | returned => rfl

theorem step_reaperKept {label : RetryLabel Key Rule} (kept : ReaperKept state caller)
    (only : OnlyReaps caller label) (fired : service.retryStep state label = some after) :
    ReaperKept after caller := by
  have table := (step_tableKept kept.table fired).1
  by_cases inside : ∃ mover action, label = .act mover action
  · obtain ⟨mover, action, rfl⟩ := inside
    obtain ⟨moved, acted, rfl⟩ := Option.map_eq_some_iff.mp fired
    obtain rfl : mover = caller := only.1
    have move := DlqService.move_of_act acted
    obtain ⟨reaps, sweeps⟩ := move_reaps move only kept.reaps kept.sweeps
    have known := attempts_known kept.table kept.known move
    refine ⟨table, known, ?_, ?_, fun id => ?_⟩
    · dsimp only
      rwa [Function.update_self]
    · dsimp only
      rwa [Function.update_self]
    · have tallied : TalliedRow moved.2 moved.1 id := move_tallied move only kept.reaps kept.sweeps (kept.tallied id)
      dsimp only
      rw [Function.update_self]
      exact ⟨tallied.row, tallied.listed, tallied.current⟩
  · have outside := outside_of_step (fun mover action same => inside ⟨mover, action, same⟩) fired
    refine ⟨table, ?_, ?_, ?_, fun id => ?_⟩
    · rw [outside.attempts]
      exact fun mark among => outside.issued _ (kept.known mark among)
    · exact outside.phases ▸ kept.sweeps
    · exact outside.phases ▸ kept.reaps
    · rw [outside.phases]
      exact outside_tallied kept.table outside kept.uncounted_eq_zero (kept.tallied id)

theorem initial_reaperKept (store : Store) (rules : String → List Rule) (keys : Option (KeyRing Key)) :
    ReaperKept (RetryState.initial store rules keys : RetryState World Key Rule) caller where
  table := initial_tableKept store rules keys
  known _ among := absurd among List.not_mem_nil
  sweeps _ _ walking := nomatch walking
  reaps _ calling := nomatch calling
  tallied _ := ⟨fun _ among => absurd among List.not_mem_nil, fun _ among => absurd among List.not_mem_nil,
    fun _ _ _ calling => nomatch calling⟩

/-- The listed count is behind the attempts. -/
theorem ReaperKept.listed_lt (kept : ReaperKept state caller) {entry : DLQRow} {rest : List DLQRow}
    {tenantID : String} {result : RetryResult}
    (returned : state.phases caller = .returned ⟨.reaper entry rest, tenantID, id⟩ result) :
    entry.retryCount < state.automaticAttempts id := by
  have owned := kept.table.phases caller
  have tallied := kept.tallied id
  rw [returned] at owned tallied
  exact tallied.current _ entry rest rfl rfl (owned.reaping _ entry rest rfl rfl).1.symm

end Reaper

/-! ### When the schedule is exponential -/

/-- The jitter of the reaper is below its maximum. -/
def Jittered (maxJitter : Int) : RetryLabel Key Rule → Prop
  | .act _ (.close _ jitter _) => 0 ≤ jitter ∧ jitter < maxJitter
  | _ => True

/-- No attempt of the reaper at the row returns anything but an error to reschedule. -/
def AttemptsFail (id : String) (state : RetryState World Key Rule) : RetryLabel Key Rule → Prop
  | .act caller (.close _ _ _) => ∀ call result, state.phases caller = .returned call result →
      call.loop.isReaper = true → call.id = id → result = .failed
  | _ => True

/-- The delays of a base are exponential up to ten minutes, and nothing leaves 64 bits. -/
structure DelaysExponential (baseMs : Int) : Prop where
  capped : ∀ attempt, backoffDelay attempt baseMs = min 600000 (backoffBase baseMs * 2 ^ attempt) * 1000000
  fits : ∀ attempt, 0 < backoffBase baseMs * 2 ^ min attempt 30 ∧ backoffBase baseMs * 2 ^ min attempt 30 < 2 ^ 63 ∧
    0 ≤ backoffDelay attempt baseMs ∧ backoffDelay attempt baseMs < 2 ^ 63
  grows : ∀ first second, first ≤ second → backoffDelay first baseMs ≤ backoffDelay second baseMs

/-- The delays are exponential, and rows whose automatic attempts all fail are scheduled after them. -/
structure ExponentialBackoff (service : DlqService World Document Key Rule) (maxJitter : Int) : Prop where
  delays : ∀ baseMs, 0 ≤ baseMs → baseMs ≤ 600000 → DelaysExponential baseMs
  scheduled : ∀ store rules keys state id,
    Runs.Reaches service.retryStep (fun state label => Jittered maxJitter label ∧ AttemptsFail id state label)
      (RetryState.initial store rules keys) state →
    ∀ label after made, Jittered maxJitter label → AttemptsFail id state label →
      service.retryStep state label = some after → service.appointment state label = some made → made.id = id →
      0 ≤ made.baseMs → made.baseMs ≤ 600000 → made.Exponential maxJitter

/-- The count that a row was listed with gives the delay of this many attempts. -/
def CountsThrough (baseMs : Int) (attempts count : Nat) : Prop :=
  count = attempts ∨ 600000 ≤ backoffBase baseMs * 2 ^ min attempts count

/-- In every step that puts a failed row on the schedule again, its count gives the delay. -/
def CountMet (state : RetryState World Key Rule) : RetryLabel Key Rule → Prop
  | .act caller (.close _ _ true) => ∀ entry rest tenantID id,
      state.phases caller = .returned ⟨.reaper entry rest, tenantID, id⟩ .failed →
      CountsThrough (state.db.retryBackoffMs entry.entry.pipelineID) (state.automaticAttempts id) entry.retryCount
  | _ => True

section Schedule

variable {service : DlqService World Document Key Rule} {state after : RetryState World Key Rule} {caller : Nat}
  {maxJitter : Int}

/-- The closed form of the delays. -/
theorem delaysExponential {baseMs : Int} (bounded : baseMs ≤ 600000) : DelaysExponential baseMs := by
  refine ⟨backoffDelay_eq bounded, fun attempt => ?_, fun first second earlier => ?_⟩
  · rw [backoffDelay_eq bounded]
    refine ⟨shifted_pos baseMs _, shifted_lt bounded attempt, exponentialDelay_nonneg baseMs attempt, ?_⟩
    exact (exponentialDelay_le baseMs attempt).trans_lt (by decide)
  · rw [backoffDelay_eq bounded, backoffDelay_eq bounded]
    exact exponentialDelay_mono baseMs earlier

theorem countsThrough_iff (baseMs : Int) (attempts count : Nat) :
    CountsThrough baseMs attempts count ↔ exponentialDelay baseMs count = exponentialDelay baseMs attempts := by
  rcases le_total count attempts with earlier | later
  · rw [exponentialDelay_eq_iff baseMs earlier, CountsThrough, min_eq_right earlier]
  · rw [eq_comm, exponentialDelay_eq_iff baseMs later, CountsThrough, min_eq_left later, eq_comm]

/-- When a failed attempt is scheduled by the formula. -/
theorem exponential_iff {tenantID id : String} {entry : DLQRow} {rest : List DLQRow}
    (returned : state.phases caller = .returned ⟨.reaper entry rest, tenantID, id⟩ .failed)
    (bounded : state.db.retryBackoffMs entry.entry.pipelineID ≤ 600000) (positive : 0 < maxJitter) (now : Int) :
    (∀ jitter, 0 ≤ jitter → jitter < maxJitter →
      ∀ made, service.appointment state (.act caller (.close now jitter true)) = some made →
        made.Exponential maxJitter) ↔
      CountsThrough (state.db.retryBackoffMs entry.entry.pipelineID) (state.automaticAttempts id)
        entry.retryCount := by
  rw [countsThrough_iff]
  generalize counted : exponentialDelay (state.db.retryBackoffMs entry.entry.pipelineID) entry.retryCount = delay
  generalize documented : exponentialDelay (state.db.retryBackoffMs entry.entry.pipelineID)
    (state.automaticAttempts id) = wanted
  -- every jitter moves the delay by itself
  have within (jitter : Int) : (∀ made, service.appointment state (.act caller (.close now jitter true)) =
      some made → made.Exponential maxJitter) ↔ wanted ≤ delay + jitter ∧ delay + jitter < wanted + maxJitter := by
    rw [DlqService.appointment_close returned, backoffDelay_eq bounded, counted]
    have shift : now + delay + jitter - now = delay + jitter := by omega
    constructor
    · intro exponential
      have both := exponential _ rfl
      rw [Appointment.Exponential, documented, shift] at both
      exact both
    · rintro both made same
      obtain rfl := Option.some.inj same
      rw [Appointment.Exponential, documented, shift]
      exact both
  constructor
  · intro exponential
    have least := (within 0).mp (exponential 0 le_rfl positive)
    have most := (within (maxJitter - 1)).mp (exponential (maxJitter - 1) (by omega) (by omega))
    omega
  · intro same jitter nonneg small
    refine (within jitter).mpr ?_
    omega

theorem exponential_push {entry : DLQEntry} {answers : PushAnswers} {made : Appointment}
    (known : ∀ mark ∈ state.attempts, mark.id ∈ state.issued)
    (fired : service.retryStep state (.push entry answers) = some after)
    (appointed : service.appointment state (.push entry answers) = some made) (bounded : made.baseMs ≤ 600000)
    (positive : 0 < maxJitter) : made.attempts = 0 ∧ made.Exponential maxJitter := by
  obtain ⟨attempts, next⟩ := DlqService.appointment_push appointed
  rw [DlqService.retryStep] at fired
  obtain ⟨fresh, -⟩ := Option.ite_none_left_eq_some.mp fired
  rw [automaticAttempts_eq_zero known fresh] at attempts
  refine ⟨attempts, ?_⟩
  rw [Appointment.Exponential, attempts, next, backoffDelay_eq bounded]
  constructor
  · omega
  · omega

theorem reached_known {allowed : RetryState World Key Rule → RetryLabel Key Rule → Prop} {store : Store}
    {rules : String → List Rule} {keys : Option (KeyRing Key)}
    (reached : Runs.Reaches service.retryStep allowed (RetryState.initial store rules keys) state) :
    TableKept state ∧ ∀ mark ∈ state.attempts, mark.id ∈ state.issued := by
  refine reached.invariant (fun state => TableKept state ∧ ∀ mark ∈ state.attempts, mark.id ∈ state.issued)
    ⟨initial_tableKept store rules keys, fun _ among => absurd among List.not_mem_nil⟩ ?_
  intro before label after kept _ fired
  refine ⟨(step_tableKept kept.1 fired).1, ?_⟩
  by_cases inside : ∃ caller action, label = .act caller action
  · obtain ⟨caller, action, rfl⟩ := inside
    obtain ⟨moved, acted, rfl⟩ := Option.map_eq_some_iff.mp fired
    have known := attempts_known kept.1 kept.2 (DlqService.move_of_act acted)
    exact known
  · have outside := outside_of_step (fun caller action same => inside ⟨caller, action, same⟩) fired
    rw [outside.attempts]
    exact fun mark among => outside.issued _ (kept.2 mark among)

end Schedule

/-- When the schedule is exponential. A new row is scheduled as documented; a failed attempt where the count of
its row gives the delay, so that a row that only the reaper retries is where that count has reached the cap. -/
structure BackoffWhere (service : DlqService World Document Key Rule) (maxJitter : Int) : Prop where
  delays : ∀ baseMs, 0 ≤ baseMs → baseMs ≤ 600000 → DelaysExponential baseMs
  stored : ∀ store rules keys state label after made,
    Runs.Reachable service.retryStep (RetryState.initial store rules keys) state →
    service.retryStep state label = some after → service.appointment state label = some made →
    after.db.Every made.id fun row => row.nextRetryAt = some made.next
  pushed : 0 < maxJitter → ∀ store rules keys state entry answers after made,
    Runs.Reachable service.retryStep (RetryState.initial store rules keys) state →
    service.retryStep state (.push entry answers) = some after →
    service.appointment state (.push entry answers) = some made → made.baseMs ≤ 600000 →
    made.attempts = 0 ∧ made.Exponential maxJitter
  reaped : 0 < maxJitter → ∀ (state : RetryState World Key Rule) caller entry rest tenantID id now,
    state.phases caller = .returned ⟨.reaper entry rest, tenantID, id⟩ .failed →
    state.db.retryBackoffMs entry.entry.pipelineID ≤ 600000 →
    ((∀ jitter, 0 ≤ jitter → jitter < maxJitter →
      ∀ made, service.appointment state (.act caller (.close now jitter true)) = some made →
        made.Exponential maxJitter) ↔
      CountsThrough (state.db.retryBackoffMs entry.entry.pipelineID) (state.automaticAttempts id) entry.retryCount)
  alone : ∀ store rules keys (state : RetryState World Key Rule) caller entry rest tenantID id result,
    Runs.Reaches service.retryStep (fun _ label => OnlyReaps caller label) (RetryState.initial store rules keys)
      state →
    state.phases caller = .returned ⟨.reaper entry rest, tenantID, id⟩ result → ∀ baseMs,
    (CountsThrough baseMs (state.automaticAttempts id) entry.retryCount ↔
      600000 ≤ backoffBase baseMs * 2 ^ entry.retryCount)
  runs : 0 < maxJitter → ∀ store rules keys state label after made,
    Runs.Reaches service.retryStep (fun state label => Jittered maxJitter label ∧ CountMet state label)
      (RetryState.initial store rules keys) state →
    Jittered maxJitter label → CountMet state label → service.retryStep state label = some after →
    service.appointment state label = some made → made.baseMs ≤ 600000 → made.Exponential maxJitter

/-- The conditions under which rows are scheduled as documented, exactly. -/
theorem backoff_exponential_iff (service : DlqService World Document Key Rule) (maxJitter : Int) :
    BackoffWhere service maxJitter where
  delays baseMs _ bounded := delaysExponential bounded
  stored store rules keys state label after made reached fired appointed :=
    DlqService.appointment_stored (reached_known reached).1 fired appointed
  pushed positive store rules keys state entry answers after made reached fired appointed bounded :=
    exponential_push (reached_known reached).2 fired appointed bounded positive
  reaped positive state caller entry rest tenantID id now returned bounded :=
    exponential_iff returned bounded positive now
  alone store rules keys state caller entry rest tenantID id result reached returned baseMs := by
    have kept : ReaperKept state caller := reached.invariant (fun state => ReaperKept state caller)
      (initial_reaperKept store rules keys) fun _ _ _ kept only fired => step_reaperKept kept only fired
    have fewer := kept.listed_lt returned
    rw [CountsThrough, min_eq_right fewer.le]
    exact or_iff_right fewer.ne
  runs positive store rules keys state label after made reached jittered met fired appointed bounded := by
    rcases DlqService.appointment_cases appointed with
      ⟨entry, answers, rfl⟩ | ⟨caller, now, jitter, entry, rest, tenantID, id, rfl, returned⟩
    · exact (exponential_push (reached_known reached).2 fired appointed bounded positive).2
    · have below : state.db.retryBackoffMs entry.entry.pipelineID ≤ 600000 := by
        have same := appointed
        rw [DlqService.appointment_close returned] at same
        obtain rfl := Option.some.inj same
        exact bounded
      have counted := met entry rest tenantID id returned
      exact (exponential_iff returned below positive now).mpr counted jitter jittered.1 jittered.2 made appointed

/-! ### The first delay twice -/

open DlqService (gateService)

/-- The steps up to the end of a first attempt whose destination cannot be reached. -/
def firstAttempt : List (RetryLabel Unit Unit) :=
  [pushRow, .act 0 (.reap 1000000000000 50), .act 0 .next, .act 0 (.get true), .act 0 (.getPipeline true),
    .act 0 (.increment true), .act 0 (.connect true false)]

/-- The reaper's call for the row has failed, with the count at zero after one attempt. -/
def failedAtZero (state : RetryState Unit Unit Unit) : Bool :=
  match state.phases 0 with
  | .returned ⟨.reaper entry _, _, id⟩ .failed =>
    decide (state.db.retryBackoffMs entry.entry.pipelineID = 0 ∧ state.automaticAttempts id = 1 ∧ entry.retryCount = 0)
  | _ => false

/-- A new row is scheduled as documented; after its first attempt, which the reaper made with the count at zero, that
is not so. -/
theorem pushed_then_reaped :
    (∃ made, gateService.appointment gateTable pushRow = some made ∧ made.Exponential 250000000) ∧
      ∃ state, failedAtZero state = true ∧ ¬ ∀ jitter, 0 ≤ jitter → jitter < 250000000 → ∀ made,
        gateService.appointment state (.act 0 (.close 0 jitter true)) = some made → made.Exponential 250000000 := by
  have backoff := backoff_exponential_iff gateService 250000000
  constructor
  · have appointed : gateService.appointment gateTable pushRow =
        some { id := "r", attempts := 0, baseMs := 0, now := 0, next := 5000000000 } := by decide
    exact ⟨_, appointed, (backoff.pushed (by decide) _ _ _ _ _ _ _ _ .start rfl appointed (by decide)).2⟩
  · obtain ⟨state, -, failed⟩ := Runs.exists_reaches_of_exec gateService.retryStep (fun _ _ => True) gateTable
      firstAttempt failedAtZero (by decide)
    refine ⟨state, failed, fun exponential => ?_⟩
    rw [failedAtZero] at failed
    split at failed
    case h_2 => cases failed
    case h_1 entry rest tenantID id returned =>
      obtain ⟨base, attempts, count⟩ := of_decide_eq_true failed
      have counts := (backoff.reaped (by decide) state 0 entry rest tenantID id 0 returned (by omega)).mp exponential
      rw [base, attempts, count] at counts
      rcases counts with same | capped
      · cases same
      · exact absurd capped (by decide)

def attemptFailed : RetryPhase → Bool
  | .returned _ .failed => true
  | _ => false

/-- The step is not the end of a call. -/
def beforeClose : RetryLabel Unit Unit → Bool
  | .act _ (.close _ _ _) => false
  | _ => true

/-- A row with the base of five seconds is scheduled after five seconds once more when its first attempt has
failed, not after ten. -/
theorem first_delay_repeated : ¬ ExponentialBackoff gateService 250000000 := by
  intro claimed
  obtain ⟨state, reached, tested⟩ := Runs.exists_reaches_of_exec gateService.retryStep
    (fun _ label => beforeClose label = true) gateTable firstAttempt
    (fun state => decide (gateService.appointment state (.act 0 (.close 0 0 true)) =
      some { id := "r", attempts := 1, baseMs := 0, now := 0, next := 5000000000 }) &&
      ((gateService.retryStep state (.act 0 (.close 0 0 true))).isSome &&
        attemptFailed (state.phases 0)))
    (by decide)
  obtain ⟨appointed, rest⟩ := Bool.and_eq_true_iff.mp tested
  obtain ⟨fires, failed⟩ := Bool.and_eq_true_iff.mp rest
  obtain ⟨after, fired⟩ := Option.isSome_iff_exists.mp fires
  have run : Runs.Reaches gateService.retryStep
      (fun state label => Jittered 250000000 label ∧ AttemptsFail "r" state label) gateTable state := by
    refine reached.mono fun before label _ open_call => ?_
    cases label with
    | act caller action =>
      cases action with
      | close now jitter written => cases open_call
      | _ => exact ⟨trivial, trivial⟩
    | _ => exact ⟨trivial, trivial⟩
  have fails : AttemptsFail "r" state (.act 0 (.close 0 0 true) : RetryLabel Unit Unit) := by
    intro call result returned _ _
    rw [returned] at failed
    cases result with
    | failed => rfl
    | _ => cases failed
  have early := claimed.scheduled _ _ _ state "r" run (.act 0 (.close 0 0 true)) after _ ⟨le_rfl, by decide⟩ fails fired
    (of_decide_eq_true appointed) rfl (by decide) (by decide)
  have late : ¬ (exponentialDelay 0 1 ≤ 5000000000) := by decide
  exact late early.1

end MqConnector
