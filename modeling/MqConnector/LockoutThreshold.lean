/-
This file asks after which results an account is locked.

The policy speaks of a sliding window: an account is locked when the last results are failures
that all lie within it. The code counts from the first failure of an entry, and begins a new
entry with a failure that comes more than a window after this first one, so that failures
before it no longer count although the window still holds them.
-/

import MqConnector.AccountLockout

namespace MqConnector

namespace AccountLockout

/-! ### Logins one after another -/

/-- The results of a username, the last one first: when it was, and whether it was a failure. -/
abbrev LoginResults := List (Int × Bool)

/-- The entry of a username, its results so far, and the clock. -/
structure SequentialState where
  entry : Option LockoutEntry := none
  results : LoginResults := []
  clock : Int

variable (lockout : AccountLockout)

/-- A login with its result, which is no result while the account is locked. -/
def login (state : SequentialState) (attempt : Int × Bool) : Option SequentialState :=
  if attempt.1 < state.clock then none
  else if LockedAt state.entry attempt.1 then
    some { state with clock := attempt.1 }
  else
    some { entry := if attempt.2 then some (lockout.failed attempt.1 state.entry) else none
           results := attempt :: state.results
           clock := attempt.1 }

/-- The policy: the last results are failures, up to the threshold, and all within the window. -/
def Full (results : LoginResults) (now : Int) : Prop :=
  (results.take lockout.maxFailures).length = lockout.maxFailures ∧
    ∀ result ∈ results.take lockout.maxFailures, result.2 = true ∧ now - result.1 ≤ lockout.window

/-- An entry is open that began, with an earlier failure, no later than the first of the last failures up to the
threshold. -/
def OpenedInTime (state : SequentialState) (now : Int) : Prop :=
  ∃ entry ∈ state.entry, now - entry.firstFailed ≤ lockout.window ∧
    ∀ result ∈ state.results.take (lockout.maxFailures - 1), entry.firstFailed ≤ result.1

/-- What an entry says of the results: it counts the last ones, which are failures within a window of its first, and
no failure before them is as late. -/
structure Counts (window : Int) (entry : LockoutEntry) (recent earlier : LoginResults) : Prop where
  count : recent.length = entry.failures
  failed : ∀ result ∈ recent, result.2 = true ∧ entry.firstFailed ≤ result.1 ∧ result.1 - entry.firstFailed ≤ window
  sooner : ∀ result ∈ earlier.head?, result.2 = true → result.1 < entry.firstFailed

/-- What holds between logins. -/
def Kept (state : SequentialState) : Prop :=
  match state.entry with
  | none => ∀ result ∈ state.results.head?, result.2 = false
  | some entry => entry.firstFailed ≤ state.clock ∧ ∃ recent earlier, state.results = recent ++ earlier ∧
      recent ≠ [] ∧ Counts lockout.window entry recent earlier

variable {lockout}

theorem kept_login {state after : SequentialState} {attempt : Int × Bool} (kept : lockout.Kept state)
    (ran : lockout.login state attempt = some after) : lockout.Kept after := by
  obtain ⟨now, isFailure⟩ := attempt
  rw [login] at ran
  split at ran
  case isTrue => cases ran
  case isFalse passes =>
  split at ran
  case isTrue =>
    cases ran
    rw [Kept] at kept ⊢
    dsimp only
    cases held : state.entry with
    | none =>
      rw [held] at kept
      exact kept
    | some entry =>
      rw [held] at kept
      exact ⟨kept.1.trans (Int.not_lt.mp passes), kept.2⟩
  case isFalse =>
    cases ran
    cases isFailure with
    | false =>
      intro result head
      obtain rfl := Option.some.inj head
      rfl
    | true =>
      have window := lockout.windowPositive
      -- a failure that begins an entry
      have begins (sooner : ∀ result ∈ state.results.head?, result.2 = true → result.1 < now) :
          Counts lockout.window { failures := 1, firstFailed := now } [(now, true)] state.results := by
        refine ⟨rfl, fun result member => ?_, sooner⟩
        rw [List.mem_singleton.mp member]
        exact ⟨rfl, le_rfl, by dsimp only; omega⟩
      rw [Kept]
      dsimp only
      rw [if_pos rfl]
      dsimp only
      cases held : state.entry with
      | none =>
        rw [Kept, held] at kept
        refine ⟨le_rfl, [(now, true)], state.results, rfl, List.cons_ne_nil _ _, begins fun result head failed => ?_⟩
        rw [kept result head] at failed
        cases failed
      | some entry =>
        rw [Kept, held] at kept
        obtain ⟨begun, recent, earlier, split, nonempty, counts⟩ := kept
        have later : entry.firstFailed ≤ now := begun.trans (Int.not_lt.mp passes)
        rw [failed]
        split
        case isTrue aged =>
          refine ⟨le_rfl, [(now, true)], state.results, rfl, List.cons_ne_nil _ _, begins fun result head _ => ?_⟩
          rw [split, List.head?_append_of_ne_nil _ nonempty] at head
          obtain ⟨-, -, within⟩ := counts.failed result (List.mem_of_mem_head? head)
          omega
        case isFalse within =>
          have grown (lockedUntil : Option Int) : Counts lockout.window
              { entry with failures := entry.failures + 1, lockedUntil := lockedUntil } ((now, true) :: recent) earlier := by
            refine ⟨congrArg Nat.succ counts.count, ?_, counts.sooner⟩
            exact List.forall_mem_cons.mpr ⟨⟨rfl, later, Int.not_lt.mp within⟩, counts.failed⟩
          split
          · exact ⟨later, (now, true) :: recent, earlier, congrArg (List.cons _) split, List.cons_ne_nil _ _, grown _⟩
          · exact ⟨later, (now, true) :: recent, earlier, congrArg (List.cons _) split, List.cons_ne_nil _ _, grown _⟩

/-- The entry holds the failures since its first one in every run. -/
theorem kept_reached {state : SequentialState} {first : Int}
    (reached : Runs.Reachable lockout.login { clock := first } state) : lockout.Kept state := by
  refine reached.invariant _ ?_ fun state attempt after kept _ ran => kept_login kept ran
  exact fun result none => nomatch none

/-! ### The threshold -/

/-- A failure locks exactly if the count of an open entry is full. -/
theorem lockedAt_failed {entry : Option LockoutEntry} {now : Int} (admitted : ¬ LockedAt entry now) :
    LockedAt (some (lockout.failed now entry)) now ↔
      ∃ held ∈ entry, now - held.firstFailed ≤ lockout.window ∧ lockout.maxFailures ≤ held.failures + 1 := by
  have positive := lockout.lockoutPositive
  cases entry with
  | none => simp [LockedAt, failed]
  | some held =>
    rw [failed]
    split
    case isTrue aged =>
      have over_window : ¬ now - held.firstFailed ≤ lockout.window := Int.not_le.mpr aged
      simp [LockedAt, -tsub_le_iff_right, over_window]
    case isFalse within =>
      have open_entry := Int.not_lt.mp within
      split
      case isTrue enough => simp [LockedAt, -tsub_le_iff_right, open_entry, enough, positive]
      case isFalse fewer =>
        constructor
        · rintro ⟨after, same, lockedUntil, lock, later⟩
          obtain rfl := Option.some.inj same
          exact absurd ⟨held, rfl, lockedUntil, lock, later⟩ admitted
        · rintro ⟨other, same, -, enough⟩
          obtain rfl := Option.some.inj same
          exact absurd enough fewer

theorem full_failure {state : SequentialState} {now : Int} :
    lockout.Full ((now, true) :: state.results) now ↔
      (state.results.take (lockout.maxFailures - 1)).length = lockout.maxFailures - 1 ∧
        ∀ result ∈ state.results.take (lockout.maxFailures - 1),
          result.2 = true ∧ now - result.1 ≤ lockout.window := by
  have limited := lockout.limited
  have window := lockout.windowPositive
  obtain ⟨rest, same⟩ : ∃ rest, lockout.maxFailures = rest + 1 := ⟨_, (Nat.sub_add_cancel limited).symm⟩
  rw [Full, same, List.take_succ_cons, List.length_cons, List.forall_mem_cons, Nat.add_sub_cancel]
  constructor
  · rintro ⟨length, -, every⟩
    exact ⟨Nat.succ.inj length, every⟩
  · rintro ⟨length, every⟩
    exact ⟨congrArg Nat.succ length, ⟨rfl, by dsimp only; omega⟩, every⟩

theorem not_full_success {results : LoginResults} {now : Int} :
    ¬ lockout.Full ((now, false) :: results) now := by
  intro full
  have limited := lockout.limited
  obtain ⟨rest, same⟩ : ∃ rest, lockout.maxFailures = rest + 1 := ⟨_, (Nat.sub_add_cancel limited).symm⟩
  rw [Full, same, List.take_succ_cons] at full
  cases (full.2 (now, false) List.mem_cons_self).1

theorem counted_iff {state : SequentialState} {entry : LockoutEntry} {now : Int} (kept : lockout.Kept state)
    (held : state.entry = some entry) (open_entry : now - entry.firstFailed ≤ lockout.window) :
    lockout.maxFailures ≤ entry.failures + 1 ↔
      lockout.Full ((now, true) :: state.results) now ∧
        ∀ result ∈ state.results.take (lockout.maxFailures - 1), entry.firstFailed ≤ result.1 := by
  rw [Kept, held] at kept
  obtain ⟨-, recent, earlier, split, -, counts⟩ := kept
  rw [full_failure, split]
  constructor
  · intro enough
    have within : lockout.maxFailures - 1 ≤ recent.length := by
      rw [counts.count]
      omega
    rw [List.take_append_of_le_length within, List.length_take, Nat.min_eq_left within]
    refine ⟨⟨rfl, fun result member => ?_⟩, fun result member => ?_⟩
    · obtain ⟨failed, later, -⟩ := counts.failed result (List.mem_of_mem_take member)
      exact ⟨failed, by omega⟩
    · exact (counts.failed result (List.mem_of_mem_take member)).2.1
  · rintro ⟨⟨length, every⟩, late⟩
    by_contra fewer
    -- the last failure before the entry is among those that count
    have beyond : recent.length < lockout.maxFailures - 1 := by
      rw [counts.count]
      omega
    rw [List.take_append, List.take_of_length_le beyond.le] at length every late
    cases earlier with
    | nil =>
      rw [List.take_nil, List.append_nil] at length
      omega
    | cons result rest =>
      obtain ⟨room, same⟩ : ∃ room, lockout.maxFailures - 1 - recent.length = room + 1 :=
        ⟨_, (Nat.sub_add_cancel (Nat.sub_pos_of_lt beyond)).symm⟩
      have member : result ∈ recent ++ (result :: rest).take (lockout.maxFailures - 1 - recent.length) := by
        rw [same, List.take_succ_cons]
        exact List.mem_append_right _ List.mem_cons_self
      have sooner := counts.sooner result rfl (every result member).1
      have later := late result member
      omega

/-- After every result of a sequence of logins, the account is locked exactly as the policy says, if and only if the
entry that counts a failure which fills the window began in time. -/
theorem lockout_threshold_iff {state after : SequentialState} {first now : Int} {isFailure : Bool}
    (reached : Runs.Reachable lockout.login { clock := first } state)
    (ran : lockout.login state (now, isFailure) = some after) (admitted : ¬ LockedAt state.entry now) :
    (LockedAt after.entry now ↔ lockout.Full after.results now) ↔
      (isFailure = true → lockout.Full ((now, true) :: state.results) now → lockout.OpenedInTime state now) := by
  have kept := kept_reached reached
  rw [login] at ran
  split at ran
  case isTrue => cases ran
  case isFalse =>
  obtain rfl := Option.some.inj ran
  cases isFailure with
  | false =>
    refine iff_of_true (iff_of_false ?_ not_full_success) nofun
    rintro ⟨held, none, -⟩
    cases none
  | true =>
    rw [if_pos rfl, lockedAt_failed admitted]
    have counted (held : LockoutEntry) (here : state.entry = some held) :=
      @counted_iff lockout state held now kept here
    constructor
    · intro same _ full
      obtain ⟨held, here, open_entry, enough⟩ := same.mpr full
      exact ⟨held, here, open_entry, ((counted held here open_entry).mp enough).2⟩
    · intro opened
      constructor
      · rintro ⟨held, here, open_entry, enough⟩
        exact ((counted held here open_entry).mp enough).1
      · intro full
        obtain ⟨held, here, open_entry, inTime⟩ := opened rfl full
        exact ⟨held, here, open_entry, (counted held here open_entry).mpr ⟨full, inTime⟩⟩

end AccountLockout

/-- The second of two failures within the window locks the account. -/
theorem threshold_of_two :
    (AccountLockout.LockedAt (some { failures := 2, firstFailed := 0, lockedUntil := some 101 }) 1 ↔
      strictLockout.Full [(1, true), (0, true)] 1) ↔
    (true = true → strictLockout.Full [(1, true), (0, true)] 1 →
      strictLockout.OpenedInTime
        { entry := some { failures := 1, firstFailed := 0 }, results := [(0, true)], clock := 0 } 1) := by
  have reached : Runs.Reachable strictLockout.login { clock := 0 }
      { entry := some { failures := 1, firstFailed := 0 }, results := [(0, true)], clock := 0 } :=
    Runs.reaches_of_exec _ _ [(0, true)] rfl
  have ran : strictLockout.login
      { entry := some { failures := 1, firstFailed := 0 }, results := [(0, true)], clock := 0 } (1, true) =
        some { entry := some { failures := 2, firstFailed := 0, lockedUntil := some 101 }
               results := [(1, true), (0, true)], clock := 1 } := rfl
  exact AccountLockout.lockout_threshold_iff reached ran (by decide)

/-! ### Failures that do not count -/

/-- As `strictLockout`, with another threshold. -/
def lockoutAfter (maxFailures : Nat) (limited : 1 ≤ maxFailures) : AccountLockout :=
  { strictLockout with maxFailures, limited }

/-- Three failures at 9, 11 and 12 do not lock an account after three within ten, since one at 0 came before them; and
one failure does not lock it after one. -/
theorem threshold_missed :
    ((Runs.exec (lockoutAfter 3 (by decide)).login (fun _ _ => True) { clock := 0 }
        [(0, true), (9, true), (11, true), (12, true)]).map fun state => (state.entry, state.results)) =
      some (some { failures := 2, firstFailed := 11 }, [(12, true), (11, true), (9, true), (0, true)]) ∧
    (lockoutAfter 3 (by decide)).Full [(12, true), (11, true), (9, true), (0, true)] 12 ∧
    ((Runs.exec (lockoutAfter 1 (by decide)).login (fun _ _ => True) { clock := 0 } [(0, true)]).map fun state =>
        (state.entry, state.results)) = some (some { failures := 1, firstFailed := 0 }, [(0, true)]) ∧
    (lockoutAfter 1 (by decide)).Full [(0, true)] 0 := by
  refine ⟨by decide, ?_, by decide, ?_⟩
  · unfold AccountLockout.Full
    decide
  · unfold AccountLockout.Full
    decide

end MqConnector
