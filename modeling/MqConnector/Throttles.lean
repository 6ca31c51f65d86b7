/-
This file models the four throttles over fixed windows: the message budget of
`internal/pipeline/budget.go` and the login, tenant and sensitive limiters of `internal/server`.

The limiters differ in what they count by, in their defaults, and in what they answer to a
request without a tenant. The budget has one window, which is open from its creation, and makes
its callers wait instead of refusing them.
-/

import MqConnector.FixedWindows
import MqConnector.TenantBudgets

namespace MqConnector

open FixedWindows

/-! ### The limiters -/

def limitOr (default limit : Int) : Nat :=
  (if limit ≤ 0 then default else limit).toNat

def windowOr (window : Int) : Int :=
  if window ≤ 0 then minute else window

theorem limitOr_pos {default limit : Int} (positive : 0 < default) : 1 ≤ limitOr default limit := by
  rw [limitOr]
  split
  · omega
  · omega

theorem windowOr_pos (window : Int) : 0 < windowOr window := by
  rw [windowOr]
  split
  · decide
  · omega

theorem windowOr_lt {window : Int} (short : window < 2 ^ 62) : windowOr window < 2 ^ 62 := by
  rw [windowOr]
  split
  · decide
  · exact short

/-- `loginLimiter`: a client is counted by its address. -/
def newLoginLimiter (limit window : Int) : Throttle String String where
  keyOf ip := some ip
  unkeyed := true
  limit _ := limitOr 10 limit
  window := windowOr window
  limited _ := limitOr_pos (by decide)
  positive := windowOr_pos window

/-- The limit of a tenant: what the override answers, if that is positive. -/
def tenantLimit (defaultLimit : Int) (override : Option (String → Int)) (tenantID : String) : Nat :=
  match override with
  | none => limitOr 120 defaultLimit
  | some answer => if 0 < answer tenantID then (answer tenantID).toNat else limitOr 120 defaultLimit

/-- `tenantLimiter`: requests are counted by their tenant, and those without one are let through. What the override
answers for a tenant stays the same during a run. -/
def newTenantLimiter (defaultLimit window : Int) (override : Option (String → Int)) : Throttle String String where
  keyOf tenantID := if tenantID = "" then none else some tenantID
  unkeyed := true
  limit := tenantLimit defaultLimit override
  window := windowOr window
  limited tenantID := by
    have default : 1 ≤ limitOr 120 defaultLimit := limitOr_pos (by decide)
    rw [tenantLimit.eq_def]
    split
    · exact default
    · split
      · omega
      · exact default
  positive := windowOr_pos window

/-- `sensitiveLimiter`: requests are counted by their tenant and route, and those without a tenant are refused. -/
def newSensitiveLimiter (limit window : Int) : Throttle (String × String) String where
  keyOf request := if request.1 = "" then none else some (request.1 ++ "|" ++ request.2)
  unkeyed := false
  limit _ := limitOr 6 limit
  window := windowOr window
  limited _ := limitOr_pos (by decide)
  positive := windowOr_pos window

/-- A throttle bounds the rate of every key in a run, and its collector changes no answer. -/
structure BoundsRate {Request : Type} (throttle : Throttle Request String) (events : List (Event Request)) : Prop where
  windows : ∀ key, ∃ starts,
    Windowed (throttle.limit key) throttle.window starts
      (throttle.history key (throttle.answers (fun _ => none) events)) ∧
    (∀ start ∈ starts, (admitted (throttle.history key (throttle.answers (fun _ => none) events))).countP
      (fun now => start ≤ now ∧ ∀ next ∈ starts, start < next → now < next) ≤ throttle.limit key) ∧
    ∀ since, (admitted (throttle.history key (throttle.answers (fun _ => none) events))).countP
      (fun now => since ≤ now ∧ now < since + throttle.window) ≤ 2 * throttle.limit key
  collected : throttle.answers (fun _ => none) events =
    throttle.answers (fun _ => none) (events.filter Event.isRequest)

/-- Every throttle bounds the rates of its keys. -/
theorem boundsRate {Request : Type} (throttle : Throttle Request String) {events : List (Event Request)}
    {now : Int}
    (short : throttle.window < 2 ^ 62) (clocked : Clocked now events) : BoundsRate throttle events where
  windows key := by
    obtain ⟨starts, windowed⟩ := @Throttle.windowed_answers _ _ _ throttle (fun _ => none) events now key short clocked
      [] [] tracks_none
    rw [List.nil_append] at windowed
    exact ⟨starts, windowed, fun start member => windowed.atMost_until member throttle.positive, windowed.interval_le⟩
  collected := Throttle.answers_gc short clocked fun _ => Or.inl rfl

/-! ### The budget -/

namespace Budget

/-- The rounds of all callers in their order, and which were admitted. -/
def attempts : Budget → List Int → History
  | _, [] => []
  | budget, now :: rest => (now, (budget.take now).1) :: attempts (budget.take now).2 rest

/-- What a throttle knows of the budget. -/
def entry (budget : Budget) : Entry where
  count := budget.count.toNat
  windowStart := budget.windowStart

theorem take_eq {budget : Budget} (limited : 1 ≤ budget.limit) (counted : 0 ≤ budget.count) (now : Int) :
    ((budget.take now).1, (budget.take now).2.entry) =
        FixedWindows.take budget.limit.toNat budget.window now (some budget.entry) ∧
      (budget.take now).2.limit = budget.limit ∧ (budget.take now).2.window = budget.window ∧
      0 ≤ (budget.take now).2.count := by
  have answers : FixedWindows.take budget.limit.toNat budget.window now (some budget.entry) =
      if budget.window ≤ now - budget.windowStart then (true, { count := 1, windowStart := now })
      else if budget.limit.toNat ≤ budget.count.toNat then (false, budget.entry)
      else (true, { budget.entry with count := budget.count.toNat + 1 }) := rfl
  by_cases past : budget.window ≤ now - budget.windowStart
  · have fresh : (0 : Int) < budget.limit := by omega
    simp only [answers, Budget.take, past, if_true, fresh]
    exact ⟨rfl, trivial, trivial, Int.zero_le_ofNat 1⟩
  · simp only [answers, Budget.take, past, if_false]
    by_cases room : budget.count < budget.limit
    · rw [if_pos room, if_neg (by omega)]
      refine ⟨Prod.ext rfl ?_, rfl, rfl, by dsimp only; omega⟩
      exact congrArg (Entry.mk · budget.windowStart) (Int.toNat_add counted (by decide))
    · rw [if_neg room, if_pos (by omega)]
      exact ⟨rfl, rfl, rfl, counted⟩

/-- The rounds of a budget fall into windows. -/
theorem windowed_attempts {budget : Budget} (limited : 1 ≤ budget.limit) (counted : 0 ≤ budget.count)
    (positive : 0 < budget.window) {rest : List Int} {now : Int} (clocked : (now :: rest).IsChain (· ≤ ·))
    {starts : List Int} {former : History}
    (tracks : Tracks budget.limit.toNat budget.window now (some budget.entry) starts former) :
    ∃ more, Windowed budget.limit.toNat budget.window more (former ++ budget.attempts rest) := by
  induction rest generalizing budget now starts former with
  | nil =>
    rw [attempts, List.append_nil]
    exact ⟨starts, tracks.windowed⟩
  | cons instant rest hypothesis =>
    obtain ⟨passes, clocked⟩ := List.isChain_cons_cons.mp clocked
    obtain ⟨same, limit, window, kept⟩ := take_eq limited counted instant
    obtain ⟨more, tracks⟩ := (tracks.mono passes).take positive (by omega)
    rw [← same, ← limit, ← window] at tracks
    rw [attempts, ← List.singleton_append, ← List.append_assoc, ← limit, ← window]
    exact hypothesis (by omega) kept (by omega) clocked tracks

end Budget

/-! ### The four together -/

/-- The budget and the limiters bound the rate of every key that they count by, and refuse only where the window has
admitted just as many; requests without a tenant are let through by the tenant limiter and refused by the sensitive
one. Of the limiters this is said where twice the window is still a duration. -/
theorem throttles_bound_rate :
    (∀ limit window now events, window < 2 ^ 62 → Clocked now events → BoundsRate (newLoginLimiter limit window) events) ∧
    (∀ limit window override now events, window < 2 ^ 62 → Clocked now events →
      BoundsRate (newTenantLimiter limit window override) events) ∧
    (∀ limit window now events, window < 2 ^ 62 → Clocked now events →
      BoundsRate (newSensitiveLimiter limit window) events) ∧
    (∀ limit window override events, ∀ line ∈ (newTenantLimiter limit window override).answers (fun _ => none) events,
      line.1 = "" → line.2.2 = true) ∧
    (∀ limit window events, ∀ line ∈ (newSensitiveLimiter limit window).answers (fun _ => none) events,
      line.1.1 = "" → line.2.2 = false) ∧
    ∀ limit window created instants, 1 ≤ limit → (created :: instants).IsChain (· ≤ ·) →
      ∃ starts, Windowed limit.toNat (windowOr window) starts ((newBudget limit window created).attempts instants) ∧
        (∀ start ∈ starts, (admitted ((newBudget limit window created).attempts instants)).countP
          (fun now => start ≤ now ∧ ∀ next ∈ starts, start < next → now < next) ≤ limit.toNat) ∧
        ∀ since, (admitted ((newBudget limit window created).attempts instants)).countP
          (fun now => since ≤ now ∧ now < since + windowOr window) ≤ 2 * limit.toNat := by
  refine ⟨fun limit window now events short clocked => boundsRate _ (windowOr_lt short) clocked,
    fun limit window override now events short clocked => boundsRate _ (windowOr_lt short) clocked,
    fun limit window now events short clocked => boundsRate _ (windowOr_lt short) clocked,
    fun limit window override events line member untenanted => Throttle.answer_of_unkeyed member (if_pos untenanted),
    fun limit window events line member untenanted => Throttle.answer_of_unkeyed member (if_pos untenanted), ?_⟩
  intro limit window created instants limited clocked
  obtain ⟨starts, windowed⟩ := @Budget.windowed_attempts (newBudget limit window created) limited le_rfl
    (windowOr_pos window) instants created clocked [created] [] (tracks_fresh created le_rfl)
  rw [List.nil_append] at windowed
  exact ⟨starts, windowed, fun start member => windowed.atMost_until member (windowOr_pos window), windowed.interval_le⟩

/-- Without a tenant nothing is counted: the first request is refused by the sensitive limiter, and of a tenant limiter
with the limit 1 both are let through. Where twice the window wraps, the collector drops an entry whose window is open. -/
theorem untenanted_requests :
    (newSensitiveLimiter 6 minute).answers (fun _ => none) [.request ("", "/api/v1/preview") 0] =
      [(("", "/api/v1/preview"), 0, false)] ∧
    (newTenantLimiter 1 minute none).answers (fun _ => none) [.request "" 0, .request "" 0] =
      [("", 0, true), ("", 0, true)] ∧
    (newLoginLimiter 1 (2 ^ 62)).answers (fun _ => none) [.request "10.0.0.1" 0, .gc 1 1, .request "10.0.0.1" 2] =
      [("10.0.0.1", 0, true), ("10.0.0.1", 2, true)] :=
  ⟨rfl, rfl, rfl⟩

/-- Two tenants with the limit 2: the third request of the window is refused, before a tick of the collector and after
it, and the next window admits again. -/
theorem tenant_throttle_bounds_rate :
    BoundsRate (newTenantLimiter 2 minute none)
      [.request "acme" 0, .request "acme" 5, .request "globex" 6, .request "acme" 7, .gc 8 9, .request "acme" 10,
        .request "acme" minute, .gc (2 * minute) (2 * minute), .request "acme" (2 * minute)] ∧
    (newTenantLimiter 2 minute none).answers (fun _ => none)
      [.request "acme" 0, .request "acme" 5, .request "globex" 6, .request "acme" 7, .gc 8 9, .request "acme" 10,
        .request "acme" minute, .gc (2 * minute) (2 * minute), .request "acme" (2 * minute)] =
      [("acme", 0, true), ("acme", 5, true), ("globex", 6, true), ("acme", 7, false), ("acme", 10, false),
        ("acme", minute, true), ("acme", 2 * minute, true)] :=
  ⟨throttles_bound_rate.2.1 2 minute none 0 _ (by decide) (by simp [Clocked, minute, second]), rfl⟩

end MqConnector
