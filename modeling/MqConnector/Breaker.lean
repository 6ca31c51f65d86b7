/-
This file models `internal/pipeline/breaker.go`, the outbound circuit breaker
the workers of one pipeline share.

Both operations run under the breaker's mutex, so each is one atomic step of
the executor; the clock reading the source takes inside is an argument.
-/

import MqConnector.Models

namespace MqConnector

inductive BreakerState
  | closed | «open» | halfOpen
  deriving DecidableEq

/-- `breaker`. Instants and the cool-down are nanoseconds. -/
structure Breaker where
  state : BreakerState := .closed
  fails : Int := 0
  threshold : Int
  cooldown : Int
  openedAt : Int := 0
  deriving DecidableEq

def defaultBreakerThreshold : Int := 5

def defaultBreakerCooldown : Int := 30000000000

def newBreaker (threshold cooldown : Int) : Breaker where
  threshold := if threshold ≤ 0 then defaultBreakerThreshold else threshold
  cooldown := if cooldown ≤ 0 then defaultBreakerCooldown else cooldown

namespace Breaker

/-- `breaker.allow`: whether the caller may send, and the breaker afterwards. -/
def allow (breaker : Breaker) (now : Int) : Bool × Breaker :=
  match breaker.state with
  | .closed => (true, breaker)
  | .halfOpen => (false, breaker)
  | .open =>
    if now - breaker.openedAt < breaker.cooldown then (false, breaker)
    else (true, { breaker with state := .halfOpen })

def recordResult (breaker : Breaker) (success : Bool) (now : Int) : Breaker :=
  if success then { breaker with state := .closed, fails := 0 }
  else if breaker.state = .halfOpen then { breaker with state := .open, openedAt := now }
  else
    let fails := breaker.fails + 1
    if breaker.threshold ≤ fails then { breaker with fails, state := .open, openedAt := now }
    else { breaker with fails }

@[simp]
theorem allow_of_halfOpen (breaker : Breaker) (now : Int)
    (halfOpen : breaker.state = .halfOpen) : breaker.allow now = (false, breaker) := by
  simp [allow, halfOpen]

theorem allow_refused (breaker : Breaker) (now : Int) (refused : (breaker.allow now).1 = false) :
    (breaker.allow now).2 = breaker := by
  unfold allow at refused ⊢
  split
  · rfl
  · rfl
  · split
    · rfl
    · simp_all

theorem recordResult_state_ne (breaker : Breaker) (success : Bool) (now : Int) :
    (breaker.recordResult success now).state ≠ .halfOpen := by
  unfold recordResult
  split
  · simp
  · split
    · simp
    · rename_i notHalfOpen
      dsimp only
      split
      · simp
      · exact notHalfOpen

end Breaker

end MqConnector
