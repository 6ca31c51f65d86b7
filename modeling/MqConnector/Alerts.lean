/-
This file models `Evaluator.tick`, the state machine of the alerts.

Every tick evaluates the rules and brings two maps up to date: `pending`, with the time
at which a label set was first seen, and `firing`, with the alerts. Both are keyed by
`alertKey`, a string made of the name of the rule and the labels.
-/

import Mathlib.Algebra.Ring.Int.Defs
import Mathlib.Tactic.Common

namespace MqConnector

namespace Slo

/-! ### Times and labels -/

/-- `time.Duration`: nanoseconds in 64 bits. -/
structure Duration where
  nanoseconds : Int
  low : -2 ^ 63 ≤ nanoseconds
  high : nanoseconds < 2 ^ 63
  deriving DecidableEq

/-- `Time.Sub`, for times in nanoseconds. A difference that does not fit gives the nearest duration. -/
def sub (now earlier : Int) : Duration where
  nanoseconds := max (-2 ^ 63) (min (2 ^ 63 - 1) (now - earlier))
  low := Int.le_max_left _ _
  high := by omega

theorem le_sub_iff (duration : Duration) (nonnegative : 0 ≤ duration.nanoseconds) (now earlier : Int) :
    duration.nanoseconds ≤ (sub now earlier).nanoseconds ↔ duration.nanoseconds ≤ now - earlier := by
  have high := duration.high
  unfold sub
  dsimp only
  omega

/-- `map[string]string`. -/
abbrev Labels := Std.ExtTreeMap String String

/-- `mergeLabels`: the labels of the rule win. -/
def mergeLabels (ruleLabels vecLabels : Labels) : Labels :=
  vecLabels ∪ ruleLabels

/-- `alertKey`: the labels in the order of their names. -/
def alertKey (rule : String) (labels : Labels) : String :=
  labels.toList.foldl (fun built entry => built ++ "\x1f" ++ entry.1 ++ "=" ++ entry.2) rule

/-! ### Rules and alerts -/

structure Rule where
  name : String
  expr : String
  forDuration : Duration
  labels : Labels := ∅
  annotations : Labels := ∅
  group : String := ""
  deriving DecidableEq

structure LabelSample (Value : Type) where
  labels : Labels
  value : Value
  deriving DecidableEq

structure FiringAlert (Value : Type) where
  name : String
  severity : String
  value : Value
  threshold : String
  startedAt : Int
  annotations : Labels
  labels : Labels
  group : String
  expr : String
  deriving DecidableEq

/-- The state of `Evaluator`. -/
structure Evaluator (Value : Type) where
  pending : Std.ExtTreeMap String Int := ∅
  firing : Std.ExtTreeMap String (FiringAlert Value) := ∅

/-! ### Ticks -/

/-- The state within a tick, with the keys that were alive so far. -/
structure Pass (Value : Type) extends Evaluator Value where
  alive : Std.ExtTreeSet String := ∅

/-- What a tick finds: the clock, and the vector or the error of every rule. -/
structure Tick (Value : Type) where
  now : Int
  results : Nat → Except String (List (LabelSample Value))

section Tick

variable {Value : Type} (renderThreshold : String → String)

/-- The alert that is put into `firing`. -/
def fire (rule : Rule) (sample : LabelSample Value) (startedAt : Int) : FiringAlert Value where
  name := rule.name
  severity := (mergeLabels rule.labels sample.labels).getD "severity" ""
  value := sample.value
  threshold := renderThreshold rule.expr
  startedAt := startedAt
  annotations := rule.annotations
  labels := mergeLabels rule.labels sample.labels
  group := rule.group
  expr := rule.expr

/-- The body of the inner loop: one sample of the vector of a rule. -/
def observe (rule : Rule) (now : Int) (pass : Pass Value) (sample : LabelSample Value) : Pass Value :=
  let key := alertKey rule.name sample.labels
  let pass := { pass with alive := pass.alive.insert key }
  match pass.firing[key]? with
  -- already firing: refresh the value
  | some alert => { pass with firing := pass.firing.insert key { alert with value := sample.value } }
  | none =>
    match pass.pending[key]? with
    -- in pending: promote once the time has elapsed
    | some started =>
      if rule.forDuration.nanoseconds ≤ (sub now started).nanoseconds then
        { pass with
          firing := pass.firing.insert key (fire renderThreshold rule sample started)
          pending := pass.pending.erase key }
      else pass
    -- first sighting
    | none =>
      if rule.forDuration.nanoseconds = 0 then
        { pass with firing := pass.firing.insert key (fire renderThreshold rule sample now) }
      else { pass with pending := pass.pending.insert key now }

/-- The body of the outer loop: a rule whose evaluation fails is left out. -/
def evaluateRule (input : Tick Value) (pass : Pass Value) (entry : Rule × Nat) : Pass Value :=
  match input.results entry.2 with
  | .error _ => pass
  | .ok vector => vector.foldl (observe renderThreshold entry.1 input.now) pass

/-- `tick`: what was not alive is pruned at the end. -/
def tick (rules : List Rule) (evaluator : Evaluator Value) (input : Tick Value) : Evaluator Value :=
  let pass := rules.zipIdx.foldl (evaluateRule renderThreshold input) { evaluator with }
  { pending := pass.pending.filter fun key _ => pass.alive.contains key
    firing := pass.firing.filter fun key _ => pass.alive.contains key }

/-- The ticks of a run, from an empty state. -/
def run (rules : List Rule) (ticks : List (Tick Value)) : Evaluator Value :=
  ticks.foldl (tick renderThreshold rules) {}

end Tick

end Slo

end MqConnector
