/-
This file models the conditions of routing rules, `evaluateCondition` of
`internal/pipeline/route.go`, and says what the route stage answers.

A condition compares the text of a value with the text of the rule; for `gt` and `lt` both
are read back as numbers first. Of the enabled rules in the order of their priorities, rules
of one priority as they are listed, the stage takes those whose path is there and whose
condition holds, and names their destinations once each.
-/

import Mathlib.Data.List.Infix
import MqConnector.Documents

namespace MqConnector

/-! ### Conditions -/

/-- What conditions use of other packages: `strconv.ParseFloat`, the order of `float64` and
`regexp.MatchString`, which has no answer for a pattern that does not compile. -/
structure ConditionLibrary (Number : Type) extends StructuredLibrary Number where
  parseFloat : String → Option Number
  less : Number → Number → Bool
  matchString : String → String → Option Bool

namespace ConditionLibrary

variable {Number : Type} (library : ConditionLibrary Number)

/-- `gt` and `lt`: numbers are compared as numbers, other texts as texts. -/
def ordered (first second : String) : Bool :=
  match library.parseFloat first, library.parseFloat second with
  | some former, some latter => library.less former latter
  | _, _ => first < second

def evaluateCondition (value : Value Number) (op conditionValue : String) : Bool :=
  let s := value.sprintV library.formatNumber
  match op with
  | "eq" => s = conditionValue
  | "neq" => s ≠ conditionValue
  | "contains" => conditionValue.toList <:+: s.toList
  | "regex" => library.matchString conditionValue s = some true
  | "gt" => library.ordered conditionValue s
  | "lt" => library.ordered s conditionValue
  | "exists" =>
    match value with
    | .null => false
    | _ => true
  | _ => false

/-- The path of a rule is there, and its condition holds. -/
def Selects (data : DataMap Number) (rule : RoutingRule) : Prop :=
  ∃ value, getNestedValue rule.conditionPath data = .ok value ∧
    library.evaluateCondition value rule.conditionOperator rule.conditionValue = true

instance (data : DataMap Number) (rule : RoutingRule) : Decidable (library.Selects data rule) :=
  match found : getNestedValue rule.conditionPath data with
  | .error _ => isFalse fun ⟨_, here, _⟩ => nomatch found.symm.trans here
  | .ok value =>
    decidable_of_iff (library.evaluateCondition value rule.conditionOperator rule.conditionValue = true)
      ⟨fun holds => ⟨value, found, holds⟩, fun ⟨_, here, holds⟩ =>
        Except.ok.inj (found.symm.trans here) ▸ holds⟩

/-- How the route stage reads a message; a message that is no document is the nil map. -/
def routeReader : RouteReader (Option (DataMap Number)) where
  decodeStructured := library.decodeStructured
  matched document rule :=
    match getNestedValue rule.conditionPath (document.getD []) with
    | .error _ => false
    | .ok value => library.evaluateCondition value rule.conditionOperator rule.conditionValue

theorem routeReader_matched {document : Option (DataMap Number)} {rule : RoutingRule} :
    library.routeReader.matched document rule = true ↔ library.Selects (document.getD []) rule := by
  rw [routeReader, Selects]
  dsimp only
  split
  case h_1 missing =>
    constructor
    · intro none
      cases none
    · rintro ⟨value, here, -⟩
      rw [missing] at here
      cases here
  case h_2 value here =>
    constructor
    · exact fun holds => ⟨value, here, holds⟩
    · rintro ⟨other, found, holds⟩
      obtain rfl := Except.ok.inj (here.symm.trans found)
      exact holds

end ConditionLibrary

/-! ### Stable order -/

/-- A list in the order of its keys, where elements of one key stand as they are listed. -/
structure StableOrder {Element Key : Type} [LinearOrder Key] (key : Element → Key) (listed order : List Element) :
    Prop where
  sorted : order.Pairwise fun first second => key first ≤ key second
  stable : ∀ value, order.filter (fun element => key element = value) =
    listed.filter fun element => key element = value

section Stable

variable {Element Key : Type} [LinearOrder Key] (key : Element → Key)

theorem filter_orderedInsert (element : Element) (value : Key) (listed : List Element) :
    (listed.orderedInsert (fun first second => key first ≤ key second) element).filter (fun other => key other = value) =
      (element :: listed).filter fun other => key other = value := by
  induction listed with
  | nil => rfl
  | cons first rest hypothesis =>
    rw [List.orderedInsert_cons]
    split
    case isTrue => rfl
    case isFalse larger =>
      rw [List.filter_cons, hypothesis]
      simp only [List.filter_cons]
      -- the element and the one it passes have different keys
      have differ : key element = value → key first ≠ value := by
        rintro rfl same
        exact larger same.ge
      by_cases here : key element = value
      · have skipped := differ here
        simp [here, skipped]
      · simp [here]

theorem stableOrder_insertionSort (listed : List Element) :
    StableOrder key listed (listed.insertionSort fun first second => key first ≤ key second) where
  sorted := by
    have total : Std.Total fun first second : Element => key first ≤ key second :=
      ⟨fun first second => le_total (key first) (key second)⟩
    have trans : IsTrans Element fun first second => key first ≤ key second :=
      ⟨fun _ _ _ => le_trans⟩
    exact List.pairwise_insertionSort _ _
  stable value := by
    induction listed with
    | nil => rfl
    | cons element rest hypothesis =>
      rw [List.insertionSort_cons, filter_orderedInsert, List.filter_cons, List.filter_cons, hypothesis]

end Stable

/-! ### The route stage -/

section Stage

variable {Document : Type} (reader : RouteReader Document) (document : Document)

theorem matchingDestinations_eq (rules : List RoutingRule) :
    matchingDestinations reader document rules =
      ((rules.filter fun rule => reader.matched document rule).map RoutingRule.destinationID).eraseDups := by
  induction rules using List.reverseRecOn with
  | nil => rfl
  | append_singleton rules rule hypothesis =>
    have last : matchingDestinations reader document (rules ++ [rule]) =
        if reader.matched document rule && !(matchingDestinations reader document rules).contains rule.destinationID then
          matchingDestinations reader document rules ++ [rule.destinationID]
        else matchingDestinations reader document rules := by
      rw [matchingDestinations, List.foldl_append]
      rfl
    rw [last, hypothesis, List.filter_append, List.map_append]
    cases matched : reader.matched document rule with
    | false => simp [matched]
    | true =>
      rw [List.eraseDups_append]
      by_cases seen : rule.destinationID ∈ (rules.filter fun rule => reader.matched document rule).map
          RoutingRule.destinationID
      · simp [matched, seen, List.removeAll]
      · simp [matched, seen, List.removeAll, List.eraseDups_cons]

theorem nodup_eraseDups {Element : Type} [DecidableEq Element] (listed : List Element) :
    listed.eraseDups.Nodup := by
  match listed with
  | [] => exact List.nodup_nil
  | first :: rest =>
    have shorter := List.length_filter_le (fun other => !other == first) rest
    rw [List.eraseDups_cons]
    refine List.nodup_cons.mpr ⟨fun member => ?_, nodup_eraseDups _⟩
    have differs := (List.mem_filter.mp (List.mem_eraseDups.mp member)).2
    rw [beq_self_eq_true] at differs
    cases differs
termination_by listed.length
decreasing_by exact Nat.lt_succ_of_le shorter

/-- What the route stage answers to a document: its message, and the destinations of the enabled rules that match,
in stable order of their priorities, each once. -/
def RoutesTo (rules : List RoutingRule) (message : Bytes) (format : Format) (selects : RoutingRule → Prop)
    [DecidablePred selects] (answer : Except String StageOutput) : Prop :=
  ∃ order named, StableOrder RoutingRule.priority (rules.filter (·.enabled)) order ∧
    named = ((order.filter fun rule => selects rule).map RoutingRule.destinationID).eraseDups ∧ named.Nodup ∧
    answer = .ok { body := message, format := some format, result := if named = [] then none else some ⟨named⟩ }

/-- The stage routes by the rules that select. -/
theorem routeExecute_routes {rules : List RoutingRule} {message : Bytes} {format : Format}
    (decoded : reader.decodeStructured message format = .ok document) {selects : RoutingRule → Prop}
    [DecidablePred selects] (matches_iff : ∀ rule, reader.matched document rule = true ↔ selects rule) :
    RoutesTo rules message format selects (routeExecute reader rules message format) := by
  have order := stableOrder_insertionSort RoutingRule.priority (rules.filter (·.enabled))
  refine ⟨_, _, order, rfl, nodup_eraseDups _, ?_⟩
  have same : (fun rule => reader.matched document rule) = fun rule => decide (selects rule) := by
    funext rule
    rw [Bool.eq_iff_iff, matches_iff rule, decide_eq_true_iff]
  rw [routeExecute]
  dsimp only
  split
  case isTrue none => rw [none]; rfl
  case isFalse =>
    rw [decoded]
    dsimp only
    rw [matchingDestinations_eq, same]
    split
    · rfl
    · rfl

end Stage

end MqConnector
