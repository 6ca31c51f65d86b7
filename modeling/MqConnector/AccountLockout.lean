/-
This file models `internal/server/account_lockout.go` and asks how long a lock holds.

An attempt is admitted by `allow` and reported later. A failure that is reported while the
account is locked extends the lock, but one that comes more than a window after the first
opens a new entry, which is not locked, and a success deletes the entry.
-/

import MqConnector.Throttles

namespace MqConnector

/-! ### The lockout -/

/-- `lockoutEntry`; a zero time is no lock. -/
structure LockoutEntry where
  failures : Nat
  firstFailed : Int
  lockedUntil : Option Int := none
  deriving DecidableEq

/-- `accountLockout`, without its entries. -/
structure AccountLockout where
  maxFailures : Nat
  window : Int
  lockoutDuration : Int
  limited : 1 ≤ maxFailures
  windowPositive : 0 < window
  lockoutPositive : 0 < lockoutDuration

def newAccountLockout (maxFailures window lockout : Int) : AccountLockout where
  maxFailures := limitOr 5 maxFailures
  window := if window ≤ 0 then 5 * minute else window
  lockoutDuration := if lockout ≤ 0 then 15 * minute else lockout
  limited := limitOr_pos (by decide)
  windowPositive := by
    split
    · decide
    · omega
  lockoutPositive := by
    split
    · decide
    · omega

/-- The entries by normalised username. -/
abbrev LockoutEntries := String → Option LockoutEntry

namespace AccountLockout

variable (lower : List Char → List Char) (lockout : AccountLockout)

/-- `normalisedKey`, over `strings.ToLower`. -/
def normalisedKey (username : String) : String :=
  String.ofList (lower (trimSpace username.toList))

/-- The entry holds a lock that is not over. -/
def LockedAt (entry : Option LockoutEntry) (now : Int) : Prop :=
  ∃ held ∈ entry, ∃ lockedUntil ∈ held.lockedUntil, now < lockedUntil

instance (entry : Option LockoutEntry) (now : Int) : Decidable (LockedAt entry now) :=
  inferInstanceAs (Decidable (∃ held ∈ entry, ∃ lockedUntil ∈ held.lockedUntil, now < lockedUntil))

/-- `allow`: whether the attempt may proceed, and how long the lock still holds. -/
def allow (entries : LockoutEntries) (username : String) (now : Int) : Bool × Int :=
  if normalisedKey lower username = "" then (true, 0)
  else
    match entries (normalisedKey lower username) with
    | none => (true, 0)
    | some entry =>
      match entry.lockedUntil with
      | none => (true, 0)
      | some lockedUntil => if now < lockedUntil then (false, lockedUntil - now) else (true, 0)

/-- The entry after a failure. -/
def failed (now : Int) : Option LockoutEntry → LockoutEntry
  | none => { failures := 1, firstFailed := now }
  | some entry =>
    if lockout.window < now - entry.firstFailed then { failures := 1, firstFailed := now }
    else if lockout.maxFailures ≤ entry.failures + 1 then
      { entry with failures := entry.failures + 1, lockedUntil := some (now + lockout.lockoutDuration) }
    else { entry with failures := entry.failures + 1 }

/-- `recordFailure`. -/
def recordFailure (entries : LockoutEntries) (username : String) (now : Int) : LockoutEntries :=
  if normalisedKey lower username = "" then entries
  else
    Function.update entries (normalisedKey lower username)
      (some (lockout.failed now (entries (normalisedKey lower username))))

/-- `recordSuccess`. -/
def recordSuccess (entries : LockoutEntries) (username : String) : LockoutEntries :=
  if normalisedKey lower username = "" then entries
  else Function.update entries (normalisedKey lower username) none

/-- The collector drops entries whose window and lock are over. -/
def gc (entries : LockoutEntries) (tick : Int) : LockoutEntries :=
  fun key => (entries key).filter fun entry =>
    ¬ (lockout.window < tick - entry.firstFailed ∧ ∀ lockedUntil ∈ entry.lockedUntil, lockedUntil < tick)

end AccountLockout

/-! ### Attempts in flight -/

/-- The lockout, the usernames of the attempts that were admitted and not reported yet, and the clock. -/
structure LoginState where
  entries : LockoutEntries := fun _ => none
  inFlight : List String := []
  clock : Int

/-- What happens: an attempt asks to be admitted, an admitted attempt is reported, the collector handles a tick. -/
inductive LoginLabel
  | attempt (username : String) (now : Int)
  | failure (username : String) (now : Int)
  | success (username : String) (now : Int)
  | gc (tick now : Int)

def LoginLabel.now : LoginLabel → Int
  | .attempt _ now | .failure _ now | .success _ now | .gc _ now => now

namespace AccountLockout

variable (lower : List Char → List Char) (lockout : AccountLockout)

/-- One step of the logins: `handleLogin` before and after the credentials are checked. -/
def step (state : LoginState) (label : LoginLabel) : Option LoginState :=
  if label.now < state.clock then none
  else
    match label with
    | .attempt username now =>
      if (allow lower state.entries username now).1 then
        some { state with inFlight := username :: state.inFlight, clock := now }
      else some { state with clock := now }
    | .failure username now =>
      if username ∈ state.inFlight then
        some { entries := lockout.recordFailure lower state.entries username now
               inFlight := state.inFlight.erase username, clock := now }
      else none
    | .success username now =>
      if username ∈ state.inFlight then
        some { entries := recordSuccess lower state.entries username
               inFlight := state.inFlight.erase username, clock := now }
      else none
    | .gc tick now =>
      if tick ≤ now then some { state with entries := lockout.gc state.entries tick, clock := now } else none

/-- No late report: while an account is locked no success is reported for it, and no failure more than a window after
the first that counts. -/
def NotLate (state : LoginState) : LoginLabel → Prop
  | .failure username now =>
    ∀ entry ∈ state.entries (normalisedKey lower username), LockedAt (some entry) now →
      now - entry.firstFailed ≤ lockout.window
  | .success username now => ¬ LockedAt (state.entries (normalisedKey lower username)) now
  | .attempt _ _ | .gc _ _ => True

variable {lower lockout}

/-! ### Keeping a lock -/

/-- An attempt is refused exactly while the entry of its key is locked. -/
theorem allow_eq_false_iff {entries : LockoutEntries} {username : String} {now : Int} :
    (allow lower entries username now).1 = false ↔
      normalisedKey lower username ≠ "" ∧ LockedAt (entries (normalisedKey lower username)) now := by
  rw [allow]
  split
  case isTrue none => simp [none]
  case isFalse named =>
    cases held : entries (normalisedKey lower username) with
    | none => simp [LockedAt]
    | some entry =>
      cases lock : entry.lockedUntil with
      | none => simp [LockedAt, lock]
      | some lockedUntil =>
        by_cases within : now < lockedUntil
        · simp [LockedAt, lock, named, within]
        · simp [LockedAt, lock, within]

/-- An entry is kept that is locked until an instant, up to that instant. -/
def KeepsLock (key : String) (start lockedUntil : Int) (state : LoginState) : Prop :=
  start ≤ state.clock ∧
    (state.clock < lockedUntil → ∃ entry, state.entries key = some entry ∧
      ∃ end_of_lock ∈ entry.lockedUntil, lockedUntil ≤ end_of_lock)

/-- No step that is not late ends the lock before its time. -/
theorem keepsLock_step {key : String} {start : Int} {state after : LoginState} {label : LoginLabel}
    (keeps : KeepsLock key start (start + lockout.lockoutDuration) state) (notLate : NotLate lower lockout state label)
    (stepped : lockout.step lower state label = some after) :
    KeepsLock key start (start + lockout.lockoutDuration) after := by
  obtain ⟨begun, kept⟩ := keeps
  rw [step.eq_def] at stepped
  split at stepped
  case isTrue => cases stepped
  case isFalse passes =>
  have passes := Int.not_lt.mp passes
  cases label with
  | attempt username now =>
    have same : after.entries = state.entries ∧ after.clock = now := by
      dsimp only at stepped
      split at stepped
      · cases stepped
        exact ⟨rfl, rfl⟩
      · cases stepped
        exact ⟨rfl, rfl⟩
    rw [KeepsLock, same.1, same.2]
    exact ⟨begun.trans passes, fun before => kept (passes.trans_lt before)⟩
  | gc tick now =>
    dsimp only at stepped
    split at stepped
    case isFalse => cases stepped
    case isTrue ticked =>
      cases stepped
      refine ⟨begun.trans passes, fun before => ?_⟩
      obtain ⟨entry, held, end_of_lock, lock, longer⟩ := kept (passes.trans_lt before)
      refine ⟨entry, ?_, end_of_lock, lock, longer⟩
      show (state.entries key).filter _ = some entry
      rw [held]
      refine Option.filter_some_pos (decide_eq_true fun stale => ?_)
      have over_lock := stale.2 end_of_lock lock
      dsimp only at before
      omega
  | success username now =>
    dsimp only at stepped
    split at stepped
    case isFalse => cases stepped
    case isTrue =>
      cases stepped
      refine ⟨begun.trans passes, fun before => ?_⟩
      obtain ⟨entry, held, end_of_lock, lock, longer⟩ := kept (passes.trans_lt before)
      refine ⟨entry, ?_, end_of_lock, lock, longer⟩
      dsimp only at before ⊢
      rw [recordSuccess]
      split
      · exact held
      · by_cases mine : key = normalisedKey lower username
        · exact absurd ⟨entry, mine ▸ held, end_of_lock, lock, before.trans_le longer⟩ notLate
        · rw [Function.update_of_ne mine]
          exact held
  | failure username now =>
    dsimp only at stepped
    split at stepped
    case isFalse => cases stepped
    case isTrue =>
      cases stepped
      refine ⟨begun.trans passes, fun before => ?_⟩
      obtain ⟨entry, held, end_of_lock, lock, longer⟩ := kept (passes.trans_lt before)
      dsimp only at before ⊢
      rw [recordFailure]
      split
      · exact ⟨entry, held, end_of_lock, lock, longer⟩
      · by_cases mine : key = normalisedKey lower username
        · have counted : now - entry.firstFailed ≤ lockout.window :=
            notLate entry (mine ▸ held) ⟨entry, rfl, end_of_lock, lock, before.trans_le longer⟩
          refine ⟨_, by rw [mine, Function.update_self], ?_⟩
          rw [← mine, held, failed, if_neg (Int.not_lt.mpr counted)]
          split
          · exact ⟨_, rfl, Int.add_le_add_right (begun.trans passes) _⟩
          · exact ⟨end_of_lock, lock, longer⟩
        · rw [Function.update_of_ne mine]
          exact ⟨entry, held, end_of_lock, lock, longer⟩

/-- Nothing is counted for the empty username. -/
theorem entries_empty {first state : LoginState} (fresh : first.entries "" = none)
    (reached : Runs.Reachable (lockout.step lower) first state) : state.entries "" = none := by
  refine reached.invariant (fun state => state.entries "" = none) fresh ?_
  intro state label after none _ stepped
  rw [step.eq_def] at stepped
  split at stepped
  case isTrue => cases stepped
  case isFalse =>
  cases label with
  | attempt username now =>
    dsimp only at stepped
    split at stepped
    · cases stepped
      exact none
    · cases stepped
      exact none
  | gc tick now =>
    dsimp only at stepped
    split at stepped
    · cases stepped
      show (state.entries "").filter _ = _
      rw [none]
      rfl
    · cases stepped
  | success username now =>
    dsimp only at stepped
    split at stepped
    · cases stepped
      show recordSuccess lower state.entries username "" = _
      rw [recordSuccess]
      split
      · exact none
      case isFalse named => rw [Function.update_of_ne (Ne.symm named), none]
    · cases stepped
  | failure username now =>
    dsimp only at stepped
    split at stepped
    · cases stepped
      show lockout.recordFailure lower state.entries username now "" = _
      rw [recordFailure]
      split
      · exact none
      case isFalse named => rw [Function.update_of_ne (Ne.symm named), none]
    · cases stepped

theorem clock_of_failure {state after : LoginState} {username : String} {now : Int}
    (reported : lockout.step lower state (.failure username now) = some after) : after.clock = now := by
  rw [step.eq_def] at reported
  split at reported
  · cases reported
  · dsimp only at reported
    split at reported
    · cases reported
      rfl
    · cases reported

/-- In every run without late reports, a lock that a failure sets holds for its full duration: until then every attempt
for its username, in every spelling, is turned away. -/
theorem lock_holds {first : Int} {state locked last : LoginState} {username : String} {now : Int}
    (started : Runs.Reachable (lockout.step lower) { clock := first } state)
    (reported : lockout.step lower state (.failure username now) = some locked) {entry : LockoutEntry}
    (held : locked.entries (normalisedKey lower username) = some entry)
    (locks : entry.lockedUntil = some (now + lockout.lockoutDuration))
    (reached : Runs.Reaches (lockout.step lower) (NotLate lower lockout) locked last) {spelling : String}
    (same : normalisedKey lower spelling = normalisedKey lower username) {later : Int} (passes : last.clock ≤ later)
    (within : later < now + lockout.lockoutDuration) : (allow lower last.entries spelling later).1 = false := by
  have keeps : KeepsLock (normalisedKey lower username) now (now + lockout.lockoutDuration) last := by
    refine reached.invariant _ ⟨(clock_of_failure reported).ge, fun _ => ⟨entry, held, _, locks, le_rfl⟩⟩ ?_
    intro state label after keeps notLate stepped
    exact keepsLock_step keeps notLate stepped
  have named : normalisedKey lower username ≠ "" := by
    intro empty
    have none := entries_empty rfl (started.next trivial reported)
    rw [empty, none] at held
    cases held
  obtain ⟨entry, present, end_of_lock, lock, longer⟩ := keeps.2 (passes.trans_lt within)
  rw [allow_eq_false_iff, same]
  exact ⟨named, entry, present, end_of_lock, lock, within.trans_le longer⟩

end AccountLockout

/-! ### Late reports -/

/-- Two failures within ten lock an account for a hundred. -/
def strictLockout : AccountLockout :=
  newAccountLockout 2 10 100

def asciiLower (text : List Char) : List Char :=
  text.map Char.toLower

/-- Three attempts, of which two have failed. -/
def twoFailed : List LoginLabel :=
  [.attempt "alice" 0, .attempt "alice" 0, .attempt "alice" 0, .failure "alice" 0, .failure "alice" 1]

/-- Whether `alice` is turned away after some steps. -/
def turnedAway (labels : List LoginLabel) (now : Int) : Option Bool :=
  (Runs.exec (strictLockout.step asciiLower) (fun _ _ => True) { clock := 0 } labels).map fun state =>
    !(AccountLockout.allow asciiLower state.entries " Alice" now).1

/-- After the first of the failures of `alice`. -/
def onceFailed : LoginState where
  entries := strictLockout.recordFailure asciiLower (fun _ => none) "alice" 0
  inFlight := ["alice", "alice"]
  clock := 0

/-- After the second of the failures of `alice`, which locks her account. -/
def twiceFailed : LoginState where
  entries := strictLockout.recordFailure asciiLower onceFailed.entries "alice" 1
  inFlight := ["alice"]
  clock := 1

theorem normalisedKey_alice :
    AccountLockout.normalisedKey asciiLower "alice" = "alice" ∧
      AccountLockout.normalisedKey asciiLower " Alice" = "alice" := by
  decide

theorem twiceFailed_alice : twiceFailed.entries (AccountLockout.normalisedKey asciiLower "alice") =
    some { failures := 2, firstFailed := 0, lockedUntil := some 101 } := by
  rw [twiceFailed, onceFailed]
  dsimp only
  rw [AccountLockout.recordFailure, AccountLockout.recordFailure, normalisedKey_alice.1]
  rfl

/-- Locked by the second failure, `alice` is turned away in every spelling while the lock lasts, after an attempt that
is refused, the failure of the attempt still in flight and a collection. -/
theorem lock_holds_alice : ∃ last, Runs.Reachable (strictLockout.step asciiLower) twiceFailed last ∧
    last.inFlight = [] ∧ last.clock = 31 ∧
      (AccountLockout.allow asciiLower last.entries " Alice" 100).1 = false := by
  have started : Runs.Reachable (strictLockout.step asciiLower) { clock := 0 } onceFailed := by
    refine Runs.reaches_of_exec _ _ [.attempt "alice" 0, .attempt "alice" 0, .attempt "alice" 0, .failure "alice" 0] ?_
    rfl
  have locks : strictLockout.step asciiLower onceFailed (.failure "alice" 1) = some twiceFailed := rfl
  have counted : AccountLockout.NotLate asciiLower strictLockout twiceFailed (.failure "alice" 9) := by
    intro entry held _
    rw [twiceFailed_alice] at held
    obtain rfl := Option.some.inj held
    decide
  have reached : Runs.Reaches (strictLockout.step asciiLower) (AccountLockout.NotLate asciiLower strictLockout)
      twiceFailed _ :=
    .next (.next (.next .start
      (show AccountLockout.NotLate asciiLower strictLockout _ (.attempt " Alice" 2) from trivial) rfl)
      (show AccountLockout.NotLate asciiLower strictLockout _ (.failure "alice" 9) from counted) rfl)
      (show AccountLockout.NotLate asciiLower strictLockout _ (.gc 30 31) from trivial) rfl
  have same : AccountLockout.normalisedKey asciiLower " Alice" = AccountLockout.normalisedKey asciiLower "alice" :=
    normalisedKey_alice.2.trans normalisedKey_alice.1.symm
  exact ⟨_, reached.mono fun _ _ _ _ => trivial, rfl, rfl,
    AccountLockout.lock_holds started locks twiceFailed_alice rfl reached same (by decide) (by decide)⟩

/-- The second failure locks the account up to 101; a success that is reported at 2 lifts the lock, and so does a
failure that is reported at 20. -/
theorem late_reports_lift_lock :
    turnedAway twoFailed 3 = some true ∧ turnedAway (twoFailed ++ [.success "alice" 2]) 3 = some false ∧
      turnedAway twoFailed 21 = some true ∧ turnedAway (twoFailed ++ [.failure "alice" 20]) 21 = some false := by
  decide

end MqConnector
