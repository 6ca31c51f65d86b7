/-
This file asks whether a check of the dedup gate says "duplicate" exactly when
the payload was checked before, no longer ago than the window.

The row of a payload carries the time of the last check alone, and two things
come between it and the history. The sweep of `cmd/mqconnector/main.go` deletes
every row older than 24 hours, while the API accepts windows of up to seven days.
And two checks of one payload can commit in the other order than they read the
clock.

Checks and sweeps are two steps each, reading the clock and the statements; a
check whose transaction fails changes nothing and does not count. `history` lists
what has taken effect, the latest first. No step reads it.
-/

import MqConnector.Dedup
import MqConnector.Runs

namespace MqConnector

/-! ### Checks, sweeps and the history -/

/-- A check that has read the clock and whose transaction is still to come. -/
structure DedupCall where
  key : String × String
  windowSeconds : Int
  now : Int
  deriving DecidableEq

/-- Something that has taken effect on the table: a check, or a sweep with its cutoff. -/
inductive DedupEvent
  | recorded (key : String × String) (seenAt : Int)
  | swept (cutoff : Int)
  deriving DecidableEq

/-- The table with the checks and sweeps in progress. -/
structure DedupState where
  clock : Int
  table : DedupTable
  calls : Nat → Option DedupCall
  sweeps : Nat → Option Int
  history : List DedupEvent

/-- The moves: the clock, a check reading it and committing, a sweep reading it and deleting. -/
inductive DedupLabel
  | tick (now : Int)
  | begin (caller : Nat) (pipelineID payloadHash : String) (windowSeconds : Int)
  | commit (caller : Nat) (succeeds : Bool)
  | beginSweep (sweeper : Nat)
  | prune (sweeper : Nat) (succeeds : Bool)

/-- The longest window `validatePipelineTuning` lets through. -/
def dedupWindowMax : Int := 7 * 24 * 60 * 60

/-- `dedupPruneCutoff`, how far behind the clock a sweep cuts. -/
def dedupPruneCutoff : Int := 24 * 60 * 60 * second

namespace DedupState

def initial (clock : Int) : DedupState where
  clock := clock
  table := fun _ => none
  calls := fun _ => none
  sweeps := fun _ => none
  history := []

/-- One step. A check is made for a pipeline and a payload, with a window the API accepts. -/
def step (state : DedupState) : DedupLabel → Option DedupState
  | .tick now => if state.clock ≤ now then some { state with clock := now } else none
  | .begin caller pipelineID payloadHash windowSeconds =>
    if state.calls caller = none ∧ pipelineID ≠ "" ∧ payloadHash ≠ "" ∧ 1 ≤ windowSeconds ∧
        windowSeconds ≤ dedupWindowMax then
      some { state with
        calls := Function.update state.calls caller
          (some { key := (pipelineID, payloadHash), windowSeconds, now := state.clock }) }
    else none
  | .commit caller succeeds =>
    match state.calls caller with
    | none => none
    | some call =>
      match succeeds, state.table.checkAndRecord call.key.1 call.key.2 call.windowSeconds call.now
        with
      | true, .ok (_, table) => some { state with
          table
          calls := Function.update state.calls caller none
          history := .recorded call.key call.now :: state.history }
      | _, _ => some { state with calls := Function.update state.calls caller none }
  | .beginSweep sweeper =>
    if state.sweeps sweeper = none then
      some { state with
        sweeps := Function.update state.sweeps sweeper (some (state.clock - dedupPruneCutoff)) }
    else none
  | .prune sweeper succeeds =>
    match state.sweeps sweeper with
    | none => none
    | some cutoff =>
      if succeeds then
        some { state with
          table := state.table.prune cutoff
          sweeps := Function.update state.sweeps sweeper none
          history := .swept cutoff :: state.history }
      else some { state with sweeps := Function.update state.sweeps sweeper none }

end DedupState

/-! ### The window over the history -/

/-- Some check of the pair was made at a time in the window of the call. -/
def SeenInWindow (history : List DedupEvent) (call : DedupCall) : Prop :=
  ∃ seenAt, .recorded call.key seenAt ∈ history ∧
    call.now - call.windowSeconds * second ≤ seenAt ∧ seenAt ≤ call.now

/-- The transaction of the call, should it be made now, answers by the window over the history. -/
def AnswersByWindow (state : DedupState) (call : DedupCall) : Prop :=
  ∃ duplicate table,
    state.table.checkAndRecord call.key.1 call.key.2 call.windowSeconds call.now =
      .ok (duplicate, table) ∧
    (duplicate = true ↔ SeenInWindow state.history call)

/-- When the pair was checked last, in the order of the transactions. -/
def lastSeen (key : String × String) : List DedupEvent → Option Int
  | [] => none
  | .recorded other seenAt :: rest => if other = key then some seenAt else lastSeen key rest
  | .swept _ :: rest => lastSeen key rest

/-- A sweep has deleted the pair since it was checked last. -/
def sweptSince (key : String × String) : List DedupEvent → Bool
  | [] => false
  | .recorded other _ :: rest => if other = key then false else sweptSince key rest
  | .swept cutoff :: rest =>
    sweptSince key rest || (lastSeen key rest).any fun seenAt => decide (seenAt < cutoff)

/-- The condition on a call, by when the pair was checked last. In the window: no sweep has deleted
the pair since. Before the window: no other check of the pair was in it. After the call read the
clock: the pair was swept since exactly if no other check of it was in the window. -/
def WindowIntact (history : List DedupEvent) (call : DedupCall) : Prop :=
  ∀ seenAt, lastSeen call.key history = some seenAt →
    (seenAt < call.now - call.windowSeconds * second → ¬ SeenInWindow history call) ∧
    (call.now - call.windowSeconds * second ≤ seenAt → seenAt ≤ call.now →
      sweptSince call.key history = false) ∧
    (call.now < seenAt → (sweptSince call.key history = true ↔ ¬ SeenInWindow history call))

/-! ### The rows and the history -/

namespace DedupTable

/-- When the row of a pair says it was checked last. -/
def seenAt (table : DedupTable) (key : String × String) : Option Int :=
  (table key).map DedupRow.lastSeenAt

theorem live_eq (table : DedupTable) (key : String × String) (windowSeconds now : Int) :
    table.live key windowSeconds now =
      (table.seenAt key).any fun seenAt => decide (now - windowSeconds * second ≤ seenAt) := by
  rw [live, seenAt]
  cases table key with
  | none => rfl
  | some row => simp

theorem seenAt_prune (table : DedupTable) (cutoff : Int) (key : String × String) :
    (table.prune cutoff).seenAt key =
      (table.seenAt key).filter fun seenAt => decide (cutoff ≤ seenAt) := by
  rw [seenAt, seenAt, prune, Option.filter_map]
  rfl

theorem seenAt_upsert (table : DedupTable) (key other : String × String) (now : Int) :
    (table.upsert key now).seenAt other = if key = other then some now else table.seenAt other := by
  by_cases same : key = other
  · rw [if_pos same, ← same, seenAt, upsert, Function.update_self]
    cases table key <;> rfl
  · rw [if_neg same, seenAt, upsert, Function.update_of_ne (Ne.symm same), seenAt]

theorem seenAt_expire_of_ne (table : DedupTable) (cutoff : Int) {key other : String × String}
    (different : key ≠ other) : (table.expire key cutoff).seenAt other = table.seenAt other := by
  rw [seenAt, expire, Function.update_of_ne different.symm, seenAt]

end DedupTable

/-- What the history leaves of a pair: its last check, unless a sweep has deleted it since. -/
def remembered (key : String × String) (history : List DedupEvent) : Option Int :=
  if sweptSince key history then none else lastSeen key history

theorem remembered_recorded (key other : String × String) (seenAt : Int)
    (history : List DedupEvent) :
    remembered key (.recorded other seenAt :: history) =
      if other = key then some seenAt else remembered key history := by
  by_cases same : other = key
  · simp [remembered, sweptSince, lastSeen, same]
  · simp [remembered, sweptSince, lastSeen, same]

theorem remembered_swept (key : String × String) (cutoff : Int) (history : List DedupEvent) :
    remembered key (.swept cutoff :: history) =
      (remembered key history).filter fun seenAt => decide (cutoff ≤ seenAt) := by
  rw [remembered, remembered, sweptSince, lastSeen]
  cases sweptSince key history with
  | true => rfl
  | false =>
    cases lastSeen key history with
    | none => rfl
    | some seenAt =>
      by_cases old : seenAt < cutoff
      · simp [old, Option.filter, not_le.mpr old]
      · simp [old, Option.filter, not_lt.mp old]

/-- The invariant: every row is what the history leaves of its pair, and the checks in progress are
ones the gate makes. -/
structure DedupState.Recorded (state : DedupState) : Prop where
  counted : state.table.Counted
  rows : ∀ key, state.table.seenAt key = remembered key state.history
  called : ∀ caller call, state.calls caller = some call →
    call.key.1 ≠ "" ∧ call.key.2 ≠ "" ∧ 0 < call.windowSeconds

namespace DedupState

theorem recorded_initial (clock : Int) : (initial clock).Recorded where
  counted := fun _ _ found => absurd found.symm (Option.some_ne_none _)
  rows := fun _ => rfl
  called := fun _ _ found => absurd found.symm (Option.some_ne_none _)

/-- The answer is what the history of the key says. -/
theorem Recorded.checkAndRecord {state : DedupState} (recorded : state.Recorded) {caller : Nat}
    {call : DedupCall} (called : state.calls caller = some call) :
    state.table.checkAndRecord call.key.1 call.key.2 call.windowSeconds call.now =
      .ok ((remembered call.key state.history).any fun seenAt =>
          decide (call.now - call.windowSeconds * second ≤ seenAt),
        (state.table.expire call.key (call.now - call.windowSeconds * second)).upsert
          call.key call.now) := by
  obtain ⟨pipelineGiven, hashGiven, windowed⟩ := recorded.called caller call called
  rw [DedupTable.checkAndRecord_eq recorded.counted _ _ _ _ pipelineGiven hashGiven windowed,
    DedupTable.live_eq, recorded.rows]

theorem Recorded.called_of_ended {state : DedupState} (recorded : state.Recorded) {ended other : Nat}
    {call : DedupCall} (found : Function.update state.calls ended none other = some call) :
    call.key.1 ≠ "" ∧ call.key.2 ≠ "" ∧ 0 < call.windowSeconds := by
  by_cases same : other = ended
  · rw [same, Function.update_self] at found
    exact absurd found.symm (Option.some_ne_none _)
  · rw [Function.update_of_ne same] at found
    exact recorded.called other call found

theorem Recorded.begin {state next : DedupState} (recorded : state.Recorded) {caller : Nat}
    {pipelineID payloadHash : String} {windowSeconds : Int}
    (taken : state.step (.begin caller pipelineID payloadHash windowSeconds) = some next) :
    next.Recorded := by
  rw [step, Option.ite_none_right_eq_some] at taken
  obtain ⟨⟨-, pipelineGiven, hashGiven, atLeastOne, -⟩, made⟩ := taken
  obtain rfl := Option.some_inj.mp made
  refine ⟨recorded.counted, recorded.rows, ?_⟩
  intro other call found
  dsimp only at found
  by_cases same : other = caller
  · rw [same, Function.update_self, Option.some_inj] at found
    subst found
    exact ⟨pipelineGiven, hashGiven, Int.lt_of_lt_of_le Int.zero_lt_one atLeastOne⟩
  · rw [Function.update_of_ne same] at found
    exact recorded.called other call found

theorem Recorded.commit {state next : DedupState} (recorded : state.Recorded) {caller : Nat}
    {succeeds : Bool} (taken : state.step (.commit caller succeeds) = some next) :
    next.Recorded := by
  rw [step] at taken
  cases called : state.calls caller with
  | none =>
    rw [called] at taken
    exact absurd taken.symm (Option.some_ne_none _)
  | some call =>
    simp only [called, recorded.checkAndRecord called] at taken
    cases succeeds with
    | false =>
      obtain rfl := Option.some_inj.mp taken
      exact ⟨recorded.counted, recorded.rows, fun _ _ => recorded.called_of_ended⟩
    | true =>
      obtain rfl := Option.some_inj.mp taken
      refine ⟨(recorded.counted.expire _ _).upsert _ _, ?_, fun _ _ => recorded.called_of_ended⟩
      intro key
      show DedupTable.seenAt _ key = remembered key (.recorded call.key call.now :: state.history)
      rw [DedupTable.seenAt_upsert, remembered_recorded]
      by_cases same : call.key = key
      · rw [if_pos same, if_pos same]
      · rw [if_neg same, if_neg same, DedupTable.seenAt_expire_of_ne _ _ same, recorded.rows]

theorem Recorded.prune {state next : DedupState} (recorded : state.Recorded) {sweeper : Nat}
    {succeeds : Bool} (taken : state.step (.prune sweeper succeeds) = some next) :
    next.Recorded := by
  rw [step] at taken
  cases swept : state.sweeps sweeper with
  | none =>
    rw [swept] at taken
    exact absurd taken.symm (Option.some_ne_none _)
  | some cutoff =>
    simp only [swept] at taken
    cases succeeds with
    | false =>
      obtain rfl := Option.some_inj.mp taken
      exact ⟨recorded.counted, recorded.rows, recorded.called⟩
    | true =>
      obtain rfl := Option.some_inj.mp taken
      refine ⟨recorded.counted.prune cutoff, ?_, recorded.called⟩
      intro key
      show (state.table.prune cutoff).seenAt key = remembered key (.swept cutoff :: state.history)
      rw [DedupTable.seenAt_prune, remembered_swept, recorded.rows]

/-- Every step keeps the table a record of the history. -/
theorem Recorded.step {state next : DedupState} {label : DedupLabel} (recorded : state.Recorded)
    (taken : state.step label = some next) : next.Recorded := by
  cases label with
  | tick now =>
    rw [DedupState.step, Option.ite_none_right_eq_some] at taken
    obtain ⟨-, made⟩ := taken
    obtain rfl := Option.some_inj.mp made
    exact ⟨recorded.counted, recorded.rows, recorded.called⟩
  | begin caller pipelineID payloadHash windowSeconds => exact recorded.begin taken
  | commit caller succeeds => exact recorded.commit taken
  | beginSweep sweeper =>
    rw [DedupState.step, Option.ite_none_right_eq_some] at taken
    obtain ⟨-, made⟩ := taken
    obtain rfl := Option.some_inj.mp made
    exact ⟨recorded.counted, recorded.rows, recorded.called⟩
  | prune sweeper succeeds => exact recorded.prune taken

end DedupState

/-! ### When the gate answers by its window -/

theorem recorded_of_lastSeen {key : String × String} {history : List DedupEvent} {last : Int}
    (seen : lastSeen key history = some last) : .recorded key last ∈ history := by
  induction history with
  | nil => exact absurd seen.symm (Option.some_ne_none _)
  | cons event rest hypothesis =>
    cases event with
    | recorded other seenAt =>
      rw [lastSeen] at seen
      by_cases same : other = key
      · rw [if_pos same, Option.some_inj] at seen
        rw [same, seen]
        exact List.mem_cons_self
      · rw [if_neg same] at seen
        exact List.mem_cons_of_mem _ (hypothesis seen)
    | swept cutoff => exact List.mem_cons_of_mem _ (hypothesis seen)

theorem lastSeen_isSome {key : String × String} {history : List DedupEvent} {seenAt : Int}
    (recorded : .recorded key seenAt ∈ history) : lastSeen key history ≠ none := by
  induction history with
  | nil => exact absurd recorded List.not_mem_nil
  | cons event rest hypothesis =>
    cases event with
    | recorded other time =>
      rw [lastSeen]
      by_cases same : other = key
      · rw [if_pos same]
        exact Option.some_ne_none time
      · rw [if_neg same]
        rcases List.mem_cons.mp recorded with here | later
        · exact absurd (DedupEvent.recorded.inj here).1.symm same
        · exact hypothesis later
    | swept cutoff =>
      rcases List.mem_cons.mp recorded with here | later
      · exact DedupEvent.noConfusion here
      · exact hypothesis later

theorem remembered_any (history : List DedupEvent) {key : String × String} {last : Int}
    (seen : lastSeen key history = some last) (cutoff : Int) :
    ((remembered key history).any fun seenAt => decide (cutoff ≤ seenAt)) = true ↔
      sweptSince key history = false ∧ cutoff ≤ last := by
  rw [remembered, seen]
  cases sweptSince key history with
  | true => simp
  | false => simp

/-- The table remembers what the window holds exactly if the window is intact. -/
theorem remembered_iff_windowIntact (history : List DedupEvent) {call : DedupCall}
    (windowed : 0 < call.windowSeconds) :
    (((remembered call.key history).any fun seenAt =>
        decide (call.now - call.windowSeconds * second ≤ seenAt)) = true ↔
      SeenInWindow history call) ↔ WindowIntact history call := by
  have opens : call.now - call.windowSeconds * second < call.now := by
    rw [second]
    omega
  cases seen : lastSeen call.key history with
  | none =>
    have unseen : ¬ SeenInWindow history call := fun ⟨_, recorded, _⟩ =>
      lastSeen_isSome recorded seen
    have forgotten : remembered call.key history = none := by
      rw [remembered, seen, ite_self]
    simp [WindowIntact, seen, unseen, forgotten]
  | some last =>
    rw [remembered_any history seen]
    have condition : WindowIntact history call ↔
        (last < call.now - call.windowSeconds * second → ¬ SeenInWindow history call) ∧
        (call.now - call.windowSeconds * second ≤ last → last ≤ call.now →
          sweptSince call.key history = false) ∧
        (call.now < last →
          (sweptSince call.key history = true ↔ ¬ SeenInWindow history call)) := by
      rw [WindowIntact, seen]
      simp only [Option.some_inj, forall_eq']
    rw [condition]
    rcases lt_or_ge last (call.now - call.windowSeconds * second) with before | inside
    · -- nothing the row says can count
      have early : ¬ call.now < last := not_lt.mpr (before.trans opens).le
      simp only [before, not_le.mpr before, and_false, false_iff, early, false_implies, and_true,
        true_implies]
    · rcases le_or_gt last call.now with current | later
      · have inWindow : SeenInWindow history call :=
          ⟨last, recorded_of_lastSeen seen, inside, current⟩
        simp only [inside, and_true, inWindow, iff_true, not_lt.mpr inside, false_implies, current,
          not_lt.mpr current, true_implies, true_and]
      · simp only [inside, and_true, not_lt.mpr inside, false_implies, not_le.mpr later, later,
          true_implies, true_and, implies_true]
        rw [← Bool.not_eq_true]
        exact not_iff_comm.trans iff_comm

/-- The result: at every point of every run of checks and sweeps, the answer a check gets is the one
its window gives over the history of checks exactly under the condition. -/
theorem DedupState.answersByWindow_iff_windowIntact (clock : Int) (state : DedupState)
    (reached : Runs.Reachable DedupState.step (DedupState.initial clock) state) (caller : Nat)
    (call : DedupCall) (called : state.calls caller = some call) :
    AnswersByWindow state call ↔ WindowIntact state.history call := by
  have recorded : state.Recorded := reached.invariant DedupState.Recorded
    (DedupState.recorded_initial clock) fun _ _ _ holds _ fired => holds.step fired
  rw [← remembered_iff_windowIntact state.history (recorded.called caller call called).2.2,
    AnswersByWindow, recorded.checkAndRecord called]
  constructor
  · rintro ⟨duplicate, table, answered, agrees⟩
    obtain ⟨rfl, rfl⟩ := Prod.mk.inj (Except.ok.inj answered)
    exact agrees
  · intro agrees
    exact ⟨_, _, rfl, agrees⟩

/-- A payload sent twice within a minute, with no sweep between: the second check is told so. -/
theorem resent_payload_answered_by_window :
    ∃ state call, Runs.Reachable DedupState.step (DedupState.initial 0) state ∧
      state.calls 0 = some call ∧ SeenInWindow state.history call ∧ AnswersByWindow state call := by
  obtain ⟨state, reached, called, past⟩ : ∃ state,
      Runs.Reachable DedupState.step (DedupState.initial 0) state ∧
      state.calls 0 = some ⟨("orders", "3f1c"), 300, 60 * second⟩ ∧
      state.history = [.recorded ("orders", "3f1c") 0] :=
    ⟨_, Runs.reaches_of_exec DedupState.step (fun _ _ => True)
      [.begin 0 "orders" "3f1c" 300, .commit 0 true, .tick (60 * second),
        .begin 0 "orders" "3f1c" 300] rfl, rfl, rfl⟩
  have intact : WindowIntact state.history ⟨("orders", "3f1c"), 300, 60 * second⟩ := by
    intro last seen
    rw [past] at seen ⊢
    obtain rfl : (0 : Int) = last := Option.some_inj.mp seen
    exact ⟨fun before => absurd before (by decide), fun _ _ => rfl,
      fun later => absurd later (by decide)⟩
  refine ⟨state, _, reached, called, ?_, (DedupState.answersByWindow_iff_windowIntact 0 state reached
    0 _ called).mpr intact⟩
  rw [past]
  exact ⟨0, List.mem_cons_self, by decide, by decide⟩

/-- A window of seven days: the payload is checked, the sweep a day later deletes its row, and a
check on the second day is told that the payload is new. -/
theorem week_window_forgotten_by_sweep :
    ∃ state call, Runs.Reachable DedupState.step (DedupState.initial 0) state ∧
      state.calls 0 = some call ∧ call.windowSeconds = 604800 ∧
      SeenInWindow state.history call ∧ ¬ AnswersByWindow state call := by
  obtain ⟨state, reached, called, past, told⟩ : ∃ state,
      Runs.Reachable DedupState.step (DedupState.initial 0) state ∧
      state.calls 0 = some ⟨("orders", "3f1c"), 604800, 172800 * second⟩ ∧
      state.history = [.swept (3600 * second), .recorded ("orders", "3f1c") 0] ∧
      (state.table.checkAndRecord "orders" "3f1c" 604800 (172800 * second)).map Prod.fst =
        .ok false :=
    ⟨_, Runs.reaches_of_exec DedupState.step (fun _ _ => True)
      [.begin 0 "orders" "3f1c" 604800, .commit 0 true, .tick (90000 * second), .beginSweep 0,
        .prune 0 true, .tick (172800 * second), .begin 0 "orders" "3f1c" 604800] rfl, rfl, rfl, rfl⟩
  have seen : SeenInWindow state.history ⟨("orders", "3f1c"), 604800, 172800 * second⟩ := by
    rw [past]
    exact ⟨0, List.mem_cons_of_mem _ List.mem_cons_self, by decide, by decide⟩
  refine ⟨state, _, reached, called, rfl, seen, ?_⟩
  rintro ⟨duplicate, table, answered, agrees⟩
  rw [answered] at told
  exact absurd ((Except.ok.inj told).symm.trans (agrees.mpr seen)) Bool.noConfusion

end MqConnector
