/-
This file asks whether the expansion of recording rules terminates, and whether it is the
same as writing the definition of a rule in its place.

Both follow from one lemma about two evaluations side by side: when the selectors of a
tree have outcomes that agree, and leave the set of the rules being expanded as it is, so
do the tree and the tree with other expressions for its selectors.
-/

import Mathlib.Data.Finset.Card
import MqConnector.Evaluation

namespace MqConnector

namespace Slo

variable {Value : Type}

/-! ### Trees -/

theorem AstNode.induction {motive : AstNode Value → Prop} (number : ∀ value, motive (.number value))
    (vectorSelector : ∀ selector, motive (.vectorSelector selector))
    (binary : ∀ op opString lhs rhs, motive lhs → motive rhs → motive (.binary op opString lhs rhs))
    (unaryMinus : ∀ inner, motive inner → motive (.unaryMinus inner))
    (funcCall : ∀ name args byLabels, (∀ arg ∈ args, motive arg) → motive (.funcCall name args byLabels))
    (node : AstNode Value) : motive node :=
  @AstNode.rec Value motive (fun args => ∀ arg ∈ args, motive arg) number vectorSelector binary
    unaryMinus funcCall (fun _ member => absurd member List.not_mem_nil)
    (fun _ _ first rest => List.forall_mem_cons.mpr ⟨first, rest⟩) node

namespace AstNode

mutual

/-- The selectors of an expression. -/
def selectors : AstNode Value → List VectorSelector
  | .number _ => []
  | .vectorSelector selector => [selector]
  | .binary _ _ lhs rhs => lhs.selectors ++ rhs.selectors
  | .unaryMinus inner => inner.selectors
  | .funcCall _ args _ => selectorsOfArgs args

def selectorsOfArgs : List (AstNode Value) → List VectorSelector
  | [] => []
  | arg :: rest => arg.selectors ++ selectorsOfArgs rest

end

def selector? : AstNode Value → Option VectorSelector
  | .vectorSelector selector => some selector
  | _ => none

mutual

/-- The selectors that stand under `rate`. -/
def rateSelectors : AstNode Value → List VectorSelector
  | .number _ => []
  | .vectorSelector _ => []
  | .binary _ _ lhs rhs => lhs.rateSelectors ++ rhs.rateSelectors
  | .unaryMinus inner => inner.rateSelectors
  | .funcCall name args _ =>
    (if name.toLower = "rate" then args.filterMap selector? else []) ++ rateSelectorsOfArgs args

def rateSelectorsOfArgs : List (AstNode Value) → List VectorSelector
  | [] => []
  | arg :: rest => arg.rateSelectors ++ rateSelectorsOfArgs rest

end

mutual

/-- A tree with other trees for its selectors. -/
def replace (write : VectorSelector → AstNode Value) : AstNode Value → AstNode Value
  | .number value => .number value
  | .vectorSelector selector => write selector
  | .binary op opString lhs rhs => .binary op opString (lhs.replace write) (rhs.replace write)
  | .unaryMinus inner => .unaryMinus (inner.replace write)
  | .funcCall name args byLabels => .funcCall name (replaceInArgs write args) byLabels

def replaceInArgs (write : VectorSelector → AstNode Value) : List (AstNode Value) → List (AstNode Value)
  | [] => []
  | arg :: rest => arg.replace write :: replaceInArgs write rest

end

theorem selectorsOfArgs_eq (args : List (AstNode Value)) :
    selectorsOfArgs args = args.flatMap selectors := by
  induction args with
  | nil => rfl
  | cons arg args hypothesis => rw [selectorsOfArgs, hypothesis, List.flatMap_cons]

theorem rateSelectorsOfArgs_eq (args : List (AstNode Value)) :
    rateSelectorsOfArgs args = args.flatMap rateSelectors := by
  induction args with
  | nil => rfl
  | cons arg args hypothesis => rw [rateSelectorsOfArgs, hypothesis, List.flatMap_cons]

theorem replaceInArgs_eq (write : VectorSelector → AstNode Value) (args : List (AstNode Value)) :
    replaceInArgs write args = args.map (replace write) := by
  induction args with
  | nil => rfl
  | cons arg args hypothesis => rw [replaceInArgs, hypothesis, List.map_cons]

theorem replace_self (node : AstNode Value) : node.replace .vectorSelector = node := by
  induction node using AstNode.induction with
  | number value => rfl
  | vectorSelector selector => rfl
  | binary op opString lhs rhs left right => rw [replace, left, right]
  | unaryMinus inner same => rw [replace, same]
  | funcCall name args byLabels same =>
    rw [replace, replaceInArgs_eq, List.map_congr_left same, List.map_id']

end AstNode

namespace Eval

/-! ### Two computations side by side -/

section Related

variable {First Second : Type} {agree : String → String → Prop} {expanding others : Finset String}

/-- The same result, or errors that agree. -/
def Agrees (agree : String → String → Prop) : Except String First → Except String First → Prop
  | .ok result, .ok other => result = other
  | .error failure, .error other => agree failure other
  | _, _ => False

/-- Each computation leaves its set as it is, and the outcomes agree. -/
def Related (agree : String → String → Prop) (expanding others : Finset String)
    (computation other : Evaluation First) : Prop :=
  ∃ outcome second, computation expanding = some (outcome, expanding) ∧
    other others = some (second, others) ∧ Agrees agree outcome second

theorem related_pure (result : First) :
    Related agree expanding others (pure result : Evaluation First) (pure result) :=
  ⟨.ok result, .ok result, rfl, rfl, rfl⟩

theorem related_throw {failure other : String} (agrees : agree failure other) :
    Related agree expanding others (throw failure : Evaluation First) (throw other) :=
  ⟨.error failure, .error other, rfl, rfl, agrees⟩

theorem run_bind {computation : Evaluation First} {outcome : Except String First}
    (ran : computation expanding = some (outcome, expanding)) (next : First → Evaluation Second) :
    (computation >>= next) expanding =
      (match outcome with | .ok result => next result | .error failure => throw failure) expanding := by
  show ((computation expanding).bind _) = _
  rw [ran]
  cases outcome <;> rfl

theorem related_bind {computation other : Evaluation First} {next after : First → Evaluation Second}
    (first : Related agree expanding others computation other)
    (further : ∀ result, Related agree expanding others (next result) (after result)) :
    Related agree expanding others (computation >>= next) (other >>= after) := by
  obtain ⟨outcome, second, ran, ranOther, agrees⟩ := first
  unfold Related
  rw [run_bind ran, run_bind ranOther]
  match outcome, second, agrees with
  | .ok result, .ok _, rfl => exact further result
  | .error failure, .error other, agrees => exact related_throw agrees

theorem Related.mono {weaker : String → String → Prop} {computation other : Evaluation First}
    (related : Related agree expanding others computation other)
    (implies : ∀ failure inner, agree failure inner → weaker failure inner) :
    Related weaker expanding others computation other := by
  obtain ⟨outcome, second, ran, ranOther, agrees⟩ := related
  refine ⟨outcome, second, ran, ranOther, ?_⟩
  match outcome, second, agrees with
  | .ok _, .ok _, same => exact same
  | .error failure, .error inner, agrees => exact implies failure inner agrees

theorem Agrees.eq {outcome second : Except String First} (agrees : Agrees Eq outcome second) :
    outcome = second := by
  match outcome, second, agrees with
  | .ok _, .ok _, same => exact congrArg _ same
  | .error _, .error _, same => exact congrArg _ same

theorem agrees_refl (reflexive : ∀ failure, agree failure failure) (outcome : Except String First) :
    Agrees agree outcome outcome := by
  cases outcome with
  | ok result => rfl
  | error failure => exact reflexive failure

theorem related_of_outcome (reflexive : ∀ failure, agree failure failure) (outcome : Except String First) :
    Related agree expanding others (ExceptT.mk (pure outcome) : Evaluation First)
      (ExceptT.mk (pure outcome)) :=
  ⟨outcome, outcome, rfl, rfl, agrees_refl reflexive outcome⟩

end Related

section Nodes

variable [Float64 Value] {agree : String → String → Prop} {expanding others : Finset String}
  {args further : List (Evaluation (List (LabelSample Value)))}

section Functions

variable (reflexive : ∀ failure, agree failure failure)
  (same : List.Forall₂ (Related agree expanding others) args further)

include reflexive

theorem evalBinary_related (op : TokenKind) (opString : String)
    {lhs rhs left right : Evaluation (List (LabelSample Value))}
    (first : Related agree expanding others lhs left) (second : Related agree expanding others rhs right) :
    Related agree expanding others (evalBinary op opString lhs rhs) (evalBinary op opString left right) :=
  related_bind first fun _ => related_bind second fun _ => related_of_outcome reflexive _

include same

theorem evalAggregator_related (name : String) (operation : Aggregation) (byLabels : List String) :
    Related agree expanding others (evalAggregator args name operation byLabels)
      (evalAggregator further name operation byLabels) := by
  cases same with
  | nil => exact related_throw (reflexive _)
  | cons first rest =>
    cases rest with
    | nil => exact related_bind first fun _ => related_pure _
    | cons second rest =>
      have length := rest.length_eq
      simp only [evalAggregator, List.length_cons, length]
      exact related_throw (reflexive _)

theorem evalClamp_related (isMin : Bool) :
    Related agree expanding others (evalClamp args isMin) (evalClamp further isMin) := by
  cases same with
  | nil => exact related_throw (reflexive _)
  | cons first rest =>
    cases rest with
    | nil => exact related_throw (reflexive _)
    | cons second rest =>
      cases rest with
      | nil =>
        refine related_bind first fun vector => related_bind second fun bound => ?_
        cases scalar? bound with
        | none => exact related_throw (reflexive _)
        | some limit => exact related_pure _
      | cons third rest =>
        have length := rest.length_eq
        simp only [evalClamp, List.length_cons, length]
        exact related_throw (reflexive _)

theorem evalHistogramQuantile_related (context : Context Value) :
    Related agree expanding others (evalHistogramQuantile args context)
      (evalHistogramQuantile further context) := by
  cases same with
  | nil => exact related_throw (reflexive _)
  | cons first rest =>
    cases rest with
    | nil => exact related_throw (reflexive _)
    | cons second rest =>
      cases rest with
      | nil =>
        refine related_bind first fun quantile => ?_
        cases scalar? quantile with
        | none => exact related_throw (reflexive _)
        | some quantile => exact related_bind second fun _ => related_pure _
      | cons third rest =>
        have length := rest.length_eq
        simp only [evalHistogramQuantile, List.length_cons, length]
        exact related_throw (reflexive _)

end Functions

variable {context : Context Value}
  {expand expandOther : AstNode Value → Evaluation (List (LabelSample Value))}

theorem evalArgs_eq (expand : AstNode Value → Evaluation (List (LabelSample Value)))
    (args : List (AstNode Value)) : evalArgs context expand args = args.map (evalNode context expand) := by
  induction args with
  | nil => rfl
  | cons arg args hypothesis => rw [evalArgs, hypothesis, List.map_cons]

variable (reflexive : ∀ failure, agree failure failure) {write : VectorSelector → AstNode Value}

include reflexive

theorem evalRate_related (nodes : List (AstNode Value))
    (kept : ∀ selector ∈ nodes.filterMap AstNode.selector?, write selector = .vectorSelector selector ∧
      Related agree expanding others (evalSelector context expand { selector with duration := "" })
        (evalSelector context expandOther { selector with duration := "" })) :
    Related agree expanding others (evalRate context expand nodes)
      (evalRate context expandOther (nodes.map (AstNode.replace write))) := by
  match nodes with
  | [] => exact related_throw (reflexive _)
  | [.number _] => exact related_throw (reflexive _)
  | [.binary _ _ _ _] => exact related_throw (reflexive _)
  | [.unaryMinus _] => exact related_throw (reflexive _)
  | [.funcCall _ _ _] => exact related_throw (reflexive _)
  | [.vectorSelector selector] =>
    obtain ⟨stays, selected⟩ := kept selector (List.mem_singleton_self selector)
    rw [List.map_singleton, AstNode.replace, stays]
    unfold evalRate
    dsimp only
    split
    · exact related_throw (reflexive _)
    · split
      · exact related_throw (reflexive _)
      · exact related_bind selected fun _ => related_pure _
  | first :: second :: rest =>
    have counted (expand : AstNode Value → Evaluation (List (LabelSample Value)))
        (first second : AstNode Value) (rest : List (AstNode Value)) :
        evalRate context expand (first :: second :: rest) =
          throw ("rate(): want 1 arg, got " ++ toString (rest.length + 2)) := by
      cases first <;> rfl
    rw [List.map_cons, List.map_cons, counted, counted, List.length_map]
    exact related_throw (reflexive _)

theorem evalNode_related (node : AstNode Value)
    (each : ∀ selector ∈ node.selectors, Related agree expanding others
      (evalSelector context expand selector) (evalNode context expandOther (write selector)))
    (kept : ∀ selector ∈ node.rateSelectors, write selector = .vectorSelector selector ∧
      Related agree expanding others (evalSelector context expand { selector with duration := "" })
        (evalSelector context expandOther { selector with duration := "" })) :
    Related agree expanding others (evalNode context expand node)
      (evalNode context expandOther (node.replace write)) := by
  induction node using AstNode.induction with
  | number value => exact related_pure _
  | vectorSelector selector => exact each selector (List.mem_singleton_self selector)
  | binary op opString lhs rhs left right =>
    obtain ⟨eachLeft, eachRight⟩ := List.forall_mem_append.mp each
    obtain ⟨keptLeft, keptRight⟩ := List.forall_mem_append.mp kept
    exact evalBinary_related reflexive op opString (left eachLeft keptLeft) (right eachRight keptRight)
  | unaryMinus inner related =>
    exact related_bind (related each kept) fun _ => related_pure _
  | funcCall name args byLabels related =>
    rw [AstNode.selectors, AstNode.selectorsOfArgs_eq] at each
    rw [AstNode.rateSelectors, AstNode.rateSelectorsOfArgs_eq] at kept
    obtain ⟨keptHere, keptInside⟩ := List.forall_mem_append.mp kept
    have same : List.Forall₂ (Related agree expanding others) (args.map (evalNode context expand))
        ((args.map (AstNode.replace write)).map (evalNode context expandOther)) := by
      rw [List.map_map, List.forall₂_map_left_iff, List.forall₂_map_right_iff, List.forall₂_same]
      intro arg member
      exact related arg member
        (fun selector inside => each selector (List.mem_flatMap_of_mem member inside))
        (fun selector inside => keptInside selector (List.mem_flatMap_of_mem member inside))
    rw [AstNode.replace, AstNode.replaceInArgs_eq, evalNode, evalNode, evalArgs_eq, evalArgs_eq]
    unfold evalFunc
    split
    · rename_i named
      rw [if_pos named] at keptHere
      exact evalRate_related reflexive args keptHere
    · exact evalAggregator_related reflexive same "sum" .sum byLabels
    · exact evalClamp_related reflexive same true
    · exact evalClamp_related reflexive same false
    · exact evalHistogramQuantile_related reflexive same context
    · exact evalAggregator_related reflexive same name .avg byLabels
    · exact evalAggregator_related reflexive same name .min byLabels
    · exact evalAggregator_related reflexive same name .max byLabels
    · exact evalAggregator_related reflexive same name .count byLabels
    · exact related_throw (reflexive _)

end Nodes

/-! ### Expansions -/

section Expansions

variable {context : Context Value} {expanding others : Finset String} {selector : VectorSelector}
  {definition : AstNode Value} {expand : AstNode Value → Evaluation (List (LabelSample Value))}

/-- The rules that can still be expanded. -/
def pending (context : Context Value) (expanding : Finset String) : Finset String :=
  context.recordings.keys.toFinset \ expanding

theorem pending_insert (found : context.recordings[selector.name]? = some definition)
    (absent : selector.name ∉ expanding) :
    (pending context (insert selector.name expanding)).card < (pending context expanding).card := by
  have known : selector.name ∈ pending context expanding := by
    have key : selector.name ∈ context.recordings := by
      rw [Std.ExtTreeMap.mem_iff_isSome_getElem?, found]
      rfl
    simp [pending, key, absent]
  rw [pending, Finset.sdiff_insert]
  exact Finset.card_erase_lt_of_mem known

theorem evalSelector_plain (plain : context.recordings[selector.name]? = none) :
    evalSelector context expand selector expanding = some (select context selector none, expanding) := by
  rw [evalSelector, plain]

theorem evalSelector_busy (found : context.recordings[selector.name]? = some definition)
    (busy : selector.name ∈ expanding) :
    evalSelector context expand selector expanding = some (select context selector none, expanding) := by
  rw [evalSelector, found]
  exact if_pos busy

theorem evalSelector_expand {outcome : Except String (List (LabelSample Value))}
    (found : context.recordings[selector.name]? = some definition) (absent : selector.name ∉ expanding)
    (expanded : expand definition (insert selector.name expanding) =
      some (outcome, insert selector.name expanding)) :
    evalSelector context expand selector expanding =
      some (select context selector (some outcome), expanding) := by
  rw [evalSelector, found]
  show (if selector.name ∈ expanding then _ else _) = _
  rw [if_neg absent, expanded, Option.map_some]
  show some (select context selector (some outcome), (insert selector.name expanding).erase selector.name) = _
  rw [Finset.erase_insert absent]

/-- The definition of the first rule has a selector with the second name. -/
def References (recordings : Std.ExtTreeMap String (AstNode Value)) (rule name : String) : Prop :=
  ∃ definition, recordings[rule]? = some definition ∧
    ∃ selector ∈ definition.selectors, VectorSelector.name selector = name

/-- The sets agree on every name that is reached from this one. -/
def Alike (context : Context Value) (expanding others : Finset String) (name : String) : Prop :=
  ∀ reached, Relation.ReflTransGen (References context.recordings) name reached →
    (reached ∈ expanding ↔ reached ∈ others)

theorem Alike.inside (alike : Alike context expanding others selector.name)
    (found : context.recordings[selector.name]? = some definition) {inner : VectorSelector}
    (member : inner ∈ definition.selectors) :
    Alike context (insert selector.name expanding) (insert selector.name others) inner.name := by
  intro reached path
  have refers : References context.recordings selector.name inner.name :=
    ⟨definition, found, inner, member, rfl⟩
  rw [Finset.mem_insert, Finset.mem_insert, alike reached (.head refers path)]

theorem rateSelectors_subset (node : AstNode Value) : node.rateSelectors ⊆ node.selectors := by
  induction node using AstNode.induction with
  | number value => exact List.nil_subset _
  | vectorSelector selector => exact List.nil_subset _
  | binary op opString lhs rhs left right =>
    rw [AstNode.rateSelectors, AstNode.selectors]
    exact List.append_subset.mpr
      ⟨List.subset_append_of_subset_left _ left, List.subset_append_of_subset_right _ right⟩
  | unaryMinus inner inside => exact inside
  | funcCall name args byLabels inside =>
    rw [AstNode.rateSelectors, AstNode.selectors, AstNode.rateSelectorsOfArgs_eq,
      AstNode.selectorsOfArgs_eq]
    refine List.append_subset.mpr ⟨?_, fun selector member => ?_⟩
    · split
      · intro selector member
        obtain ⟨arg, known, same⟩ := List.mem_filterMap.mp member
        match arg, same with
        | .vectorSelector _, rfl =>
          exact List.mem_flatMap_of_mem known (List.mem_singleton_self selector)
      · exact List.nil_subset _
    · obtain ⟨arg, known, inner⟩ := List.mem_flatMap.mp member
      exact List.mem_flatMap_of_mem known (inside arg known inner)

variable [Float64 Value]

theorem eval_alike {bound limit : Nat} {node : AstNode Value}
    (enough : (pending context expanding).card < bound) (enoughOther : (pending context others).card < limit)
    (alike : ∀ selector ∈ node.selectors, Alike context expanding others selector.name) :
    Related Eq expanding others (eval context bound node) (eval context limit node) := by
  induction bound generalizing limit expanding others node with
  | zero => exact absurd enough (Nat.not_lt_zero _)
  | succ bound hypothesis =>
    obtain ⟨limit, rfl⟩ := Nat.exists_eq_add_one_of_ne_zero (Nat.ne_zero_of_lt enoughOther)
    have selected (selector : VectorSelector) (alike : Alike context expanding others selector.name) :
        Related Eq expanding others (evalSelector context (eval context bound) selector)
          (evalSelector context (eval context limit) selector) := by
      have both := alike selector.name .refl
      cases found : context.recordings[selector.name]? with
      | none => exact ⟨_, _, evalSelector_plain found, evalSelector_plain found, agrees_refl (fun _ => rfl) _⟩
      | some definition =>
        by_cases busy : selector.name ∈ expanding
        · exact ⟨_, _, evalSelector_busy found busy, evalSelector_busy found (both.mp busy), agrees_refl (fun _ => rfl) _⟩
        · have absent : selector.name ∉ others := fun member => busy (both.mpr member)
          have fewer := pending_insert found busy
          have fewerOther := pending_insert found absent
          obtain ⟨outcome, second, ran, ranOther, agrees⟩ :=
            hypothesis (by omega) (show _ < limit by omega)
              (fun inner member => alike.inside found member)
          obtain rfl := agrees.eq
          exact ⟨_, _, evalSelector_expand found busy ran, evalSelector_expand found absent ranOther,
            agrees_refl (fun _ => rfl) _⟩
    have related := @evalNode_related Value _ Eq expanding others context (eval context bound)
      (eval context limit) (fun _ => rfl) .vectorSelector node
      (fun selector member => selected selector (alike selector member))
      (fun selector member => ⟨rfl, selected { selector with duration := "" }
        (alike selector (rateSelectors_subset node member))⟩)
    rw [AstNode.replace_self] at related
    exact related

/-- With enough expansions the outcome is this one, and the rules that are being expanded are then
these. -/
def Evaluates (context : Context Value) (node : AstNode Value) (expanding : Finset String)
    (outcome : Except String (List (LabelSample Value))) (after : Finset String) : Prop :=
  ∃ least, ∀ bound, least ≤ bound → eval context bound node expanding = some (outcome, after)

/-- Every evaluation ends. -/
theorem exists_evaluates (context : Context Value) (node : AstNode Value) (expanding : Finset String) :
    ∃ outcome, Evaluates context node expanding outcome expanding := by
  have same (name : String) : Alike context expanding expanding name := fun _ _ => Iff.rfl
  obtain ⟨outcome, _, ran, -, -⟩ := eval_alike (Nat.lt_succ_self _) (Nat.lt_succ_self _)
    (fun selector (_ : selector ∈ node.selectors) => same selector.name)
  refine ⟨outcome, (pending context expanding).card + 1, fun bound enough => ?_⟩
  obtain ⟨first, second, ranFirst, ranSecond, agrees⟩ :=
    eval_alike (Nat.lt_succ_self _) (Nat.lt_of_succ_le enough)
      (fun selector (_ : selector ∈ node.selectors) => same selector.name)
  rw [ranSecond, ← agrees.eq, ← ranFirst, ran]

/-- It ends in one way. -/
theorem Evaluates.unique {node : AstNode Value} {outcome other : Except String (List (LabelSample Value))}
    {after afterOther : Finset String} (evaluates : Evaluates context node expanding outcome after)
    (again : Evaluates context node expanding other afterOther) : outcome = other := by
  obtain ⟨least, ran⟩ := evaluates
  obtain ⟨leastOther, ranOther⟩ := again
  have same := (ran (max least leastOther) (le_max_left _ _)).symm.trans
    (ranOther (max least leastOther) (le_max_right _ _))
  exact (Prod.mk.inj (Option.some.inj same)).1

end Expansions

/-! ### Inlining -/

section Inlining

variable {recordings : Std.ExtTreeMap String (AstNode Value)} {context : Context Value}

/-- No rule is reached from its own definition. -/
def Acyclic (recordings : Std.ExtTreeMap String (AstNode Value)) : Prop :=
  ∀ name, ¬ Relation.TransGen (References recordings) name name

/-- What stands for a selector: the definition, for a rule without matchers. -/
def definitionOf (recordings : Std.ExtTreeMap String (AstNode Value)) (selector : VectorSelector) :
    AstNode Value :=
  if selector.matchers.isEmpty then (recordings[selector.name]?).getD (.vectorSelector selector)
  else .vectorSelector selector

/-- The tree with the definitions of recording rules in the place of their names. -/
def inline (recordings : Std.ExtTreeMap String (AstNode Value)) (node : AstNode Value) : AstNode Value :=
  node.replace (definitionOf recordings)

/-- No recording rule stands under `rate`. -/
def PlainRates (recordings : Std.ExtTreeMap String (AstNode Value)) (node : AstNode Value) : Prop :=
  ∀ selector ∈ node.rateSelectors, recordings[selector.name]? = none

/-- The error of the expansion of a rule whose definition has this one. -/
def IsWrapped (recordings : Std.ExtTreeMap String (AstNode Value)) (failure inner : String) : Prop :=
  ∃ name ∈ recordings, failure = "recording-rule \"" ++ name ++ "\": " ++ inner

/-- The errors are the same but for the rules they were met in. -/
def Wrapped (recordings : Std.ExtTreeMap String (AstNode Value)) : String → String → Prop :=
  Relation.ReflTransGen (IsWrapped recordings)

theorem definitionOf_plain {selector : VectorSelector} (plain : recordings[selector.name]? = none) :
    definitionOf recordings selector = .vectorSelector selector := by
  unfold definitionOf
  rw [plain, Option.getD_none, ite_self]

theorem select_expansion {selector : VectorSelector} {definition : AstNode Value}
    (found : context.recordings[selector.name]? = some definition)
    (unmatched : selector.matchers.isEmpty = true) (outcome : Except String (List (LabelSample Value))) :
    Agrees (Wrapped context.recordings) (select context selector (some outcome)) outcome := by
  cases outcome with
  | error failure =>
    have known : selector.name ∈ context.recordings := by
      rw [Std.ExtTreeMap.mem_iff_isSome_getElem?, found]
      rfl
    exact .single ⟨selector.name, known, rfl⟩
  | ok vector =>
    show filterByMatchers vector selector.matchers = vector
    rw [filterByMatchers, if_pos unmatched]

theorem plainRates_inline {node : AstNode Value} (plain : PlainRates recordings node)
    (plainRules : ∀ (name : String) definition, recordings[name]? = some definition → PlainRates recordings definition) :
    PlainRates recordings (inline recordings node) := by
  unfold PlainRates inline at *
  induction node using AstNode.induction with
  | number value => exact plain
  | vectorSelector selector =>
    show ∀ inner ∈ (definitionOf recordings selector).rateSelectors, _
    unfold definitionOf
    split
    · cases found : recordings[selector.name]? with
      | none => exact plain
      | some definition => exact plainRules selector.name definition found
    · exact plain
  | binary op opString lhs rhs left right =>
    rw [AstNode.rateSelectors, List.forall_mem_append] at plain
    rw [AstNode.replace, AstNode.rateSelectors, List.forall_mem_append]
    exact ⟨left plain.1, right plain.2⟩
  | unaryMinus inner inside => exact inside plain
  | funcCall name args byLabels inside =>
    rw [AstNode.rateSelectors, AstNode.rateSelectorsOfArgs_eq, List.forall_mem_append] at plain
    rw [AstNode.replace, AstNode.replaceInArgs_eq, AstNode.rateSelectors, AstNode.rateSelectorsOfArgs_eq,
      List.forall_mem_append]
    obtain ⟨plainHere, plainInside⟩ := plain
    constructor
    · split at plainHere
      · rename_i named
        rw [if_pos named]
        intro selector member
        obtain ⟨written, known, same⟩ := List.mem_filterMap.mp member
        obtain ⟨arg, argKnown, rfl⟩ := List.mem_map.mp known
        match arg, same with
        | .vectorSelector under, same =>
          have here := plainHere under (List.mem_filterMap.mpr ⟨_, argKnown, rfl⟩)
          rw [AstNode.replace, definitionOf_plain here] at same
          obtain rfl := Option.some.inj same
          exact here
      · rename_i other
        rw [if_neg other]
        exact fun _ member => absurd member List.not_mem_nil
    · intro selector member
      obtain ⟨written, known, inner⟩ := List.mem_flatMap.mp member
      obtain ⟨arg, argKnown, rfl⟩ := List.mem_map.mp known
      exact inside arg argKnown
        (fun under known => plainInside under (List.mem_flatMap_of_mem argKnown known)) selector inner

theorem Wrapped.trans {outcome second third : Except String (List (LabelSample Value))}
    (first : Agrees (Wrapped recordings) outcome second)
    (next : Agrees (Wrapped recordings) second third) : Agrees (Wrapped recordings) outcome third := by
  match outcome, second, third, first, next with
  | .ok _, .ok _, .ok _, same, further => exact Eq.trans same further
  | .error _, .error _, .error _, first, next => exact Relation.ReflTransGen.trans first next

variable [Float64 Value]

/-- An expression and its inlined form are evaluated alike. -/
theorem inline_related {node : AstNode Value} (acyclic : Acyclic context.recordings)
    (plain : PlainRates context.recordings node) {bound limit : Nat}
    (enough : (pending context ∅).card < bound) (enoughOther : (pending context ∅).card < limit) :
    Related (Wrapped context.recordings) ∅ ∅ (eval context bound node)
      (eval context limit (inline context.recordings node)) := by
  obtain ⟨bound, rfl⟩ := Nat.exists_eq_add_one_of_ne_zero (Nat.ne_zero_of_lt enough)
  obtain ⟨limit, rfl⟩ := Nat.exists_eq_add_one_of_ne_zero (Nat.ne_zero_of_lt enoughOther)
  have reflexive (failure : String) : Wrapped context.recordings failure failure := .refl
  have weaken (failure inner : String) (same : failure = inner) :
      Wrapped context.recordings failure inner := same ▸ .refl
  have same (selector : VectorSelector) : Related (Wrapped context.recordings) ∅ ∅
      (evalSelector context (eval context bound) selector)
      (evalSelector context (eval context limit) selector) := by
    have related : Related Eq ∅ ∅ (eval context (bound + 1) (.vectorSelector selector))
        (eval context (limit + 1) (.vectorSelector selector)) :=
      eval_alike enough enoughOther fun _ _ _ _ => Iff.rfl
    exact related.mono weaken
  refine evalNode_related reflexive node (fun selector _ => ?_) (fun selector member => ?_)
  · cases found : context.recordings[selector.name]? with
    | none =>
      rw [definitionOf_plain found]
      exact same selector
    | some definition =>
      by_cases unmatched : selector.matchers.isEmpty = true
      · have written : definitionOf context.recordings selector = definition := by
          rw [definitionOf, if_pos unmatched, found, Option.getD_some]
        rw [written]
        have absent : selector.name ∉ (∅ : Finset String) := Finset.notMem_empty _
        have fewer := pending_insert found absent
        -- the rule is not reached from its definition, so that expanding it makes no difference there
        have apart : ∀ inner ∈ definition.selectors,
            Alike context (insert selector.name ∅) ∅ inner.name := by
          intro inner member reached path
          have refers : References context.recordings selector.name inner.name :=
            ⟨definition, found, inner, member, rfl⟩
          have other : reached ≠ selector.name := fun back =>
            acyclic selector.name (.head' refers (back ▸ path))
          simp [other]
        obtain ⟨outcome, second, ran, ranOther, agrees⟩ :=
          eval_alike (show _ < bound by omega) enoughOther apart
        obtain rfl := agrees.eq
        exact ⟨_, outcome, evalSelector_expand found absent ran, ranOther,
          select_expansion found unmatched outcome⟩
      · rw [definitionOf, if_neg unmatched]
        exact same selector
  · exact ⟨definitionOf_plain (plain selector member), same { selector with duration := "" }⟩

theorem Evaluates.of_related {node other : AstNode Value} {agree : String → String → Prop}
    (related : ∀ bound limit, (pending context ∅).card < bound → (pending context ∅).card < limit →
      Related agree ∅ ∅ (eval context bound node) (eval context limit other)) :
    ∃ outcome second, Evaluates context node ∅ outcome ∅ ∧ Evaluates context other ∅ second ∅ ∧
      Agrees agree outcome second := by
  obtain ⟨outcome, evaluates⟩ := exists_evaluates context node ∅
  obtain ⟨second, evaluatesOther⟩ := exists_evaluates context other ∅
  refine ⟨outcome, second, evaluates, evaluatesOther, ?_⟩
  obtain ⟨least, ran⟩ := evaluates
  obtain ⟨leastOther, ranOther⟩ := evaluatesOther
  obtain ⟨first, last, ranFirst, ranLast, agrees⟩ :=
    related (max least ((pending context ∅).card + 1)) (max leastOther ((pending context ∅).card + 1))
      (Nat.lt_of_succ_le (le_max_right _ _)) (Nat.lt_of_succ_le (le_max_right _ _))
  rw [ran _ (le_max_left _ _)] at ranFirst
  rw [ranOther _ (le_max_left _ _)] at ranLast
  obtain rfl := (Prod.mk.inj (Option.some.inj ranFirst)).1
  obtain rfl := (Prod.mk.inj (Option.some.inj ranLast)).1
  exact agrees

/-- The expansion of recording rules terminates and leaves the set of the rules being expanded as it
found it; and when the rules are acyclic and none stands under `rate`, to write the definitions in
the place of the rules, once or again and again, changes nothing but the rules named in an error. -/
theorem evalNode_terminates_and_inlines (context : Context Value) (node : AstNode Value) :
    (∀ expanding, ∃ outcome, Evaluates context node expanding outcome expanding) ∧
    (Acyclic context.recordings → PlainRates context.recordings node →
      (∀ (name : String) definition, context.recordings[name]? = some definition →
        PlainRates context.recordings definition) →
      ∀ passes, ∃ outcome inlined, Evaluates context node ∅ outcome ∅ ∧
        Evaluates context ((inline context.recordings)^[passes] node) ∅ inlined ∅ ∧
        Agrees (Wrapped context.recordings) outcome inlined) := by
  refine ⟨exists_evaluates context node, fun acyclic plain plainRules passes => ?_⟩
  induction passes generalizing node with
  | zero =>
    obtain ⟨outcome, evaluates⟩ := exists_evaluates context node ∅
    exact ⟨outcome, outcome, evaluates, evaluates, agrees_refl (fun _ => .refl) outcome⟩
  | succ passes hypothesis =>
    rw [Function.iterate_succ_apply]
    obtain ⟨outcome, once, evaluates, evaluatesOnce, agrees⟩ := Evaluates.of_related
      fun _ _ enough enoughOther => inline_related acyclic plain enough enoughOther
    obtain ⟨first, inlined, evaluatesFirst, evaluatesInlined, further⟩ :=
      hypothesis (inline context.recordings node) (plainRates_inline plain plainRules)
    obtain rfl := evaluatesOnce.unique evaluatesFirst
    exact ⟨outcome, inlined, evaluates, evaluatesInlined, Wrapped.trans agrees further⟩

end Inlining

section Instances

/-- One recording rule, with the name `x`. -/
def oneRule (definition : AstNode Extended) : Context Extended where
  current := []
  recordings := (∅ : Std.ExtTreeMap String (AstNode Extended)).insert "x" definition
  sortPoints := id
  permutes _ := .rfl

def named (name : String) : AstNode Extended :=
  .vectorSelector { name }

theorem oneRule_found (definition : AstNode Extended) :
    (oneRule definition).recordings["x"]? = some definition :=
  Std.ExtTreeMap.getElem?_insert_self

theorem oneRule_definition {definition other : AstNode Extended} {name : String}
    (found : (oneRule definition).recordings[name]? = some other) : other = definition := by
  have found : ((∅ : Std.ExtTreeMap String (AstNode Extended)).insert "x" definition)[name]? = some other :=
    found
  rw [Std.ExtTreeMap.getElem?_insert] at found
  split at found
  · exact (Option.some.inj found).symm
  · simp at found

theorem acyclic_oneRule {definition : AstNode Extended} (closed : definition.selectors = []) :
    Acyclic (oneRule definition).recordings := by
  intro name cycle
  obtain ⟨first, ⟨other, found, selector, member, -⟩, -⟩ := Relation.TransGen.head'_iff.mp cycle
  rw [oneRule_definition found, closed] at member
  exact absurd member List.not_mem_nil

/-- `x` is `foo()`, which is no function. -/
def broken : AstNode Extended :=
  .funcCall "foo" [] []

theorem evalNode_broken (context : Context Extended)
    (expand : AstNode Extended → Evaluation (List (LabelSample Extended))) :
    evalNode context expand broken = throw "unsupported function \"foo\"" := by
  have lowered : "foo".toLower = "foo" := by
    rw [toLower_eq_ofList]
    rfl
  rw [broken, evalNode, evalFunc, lowered]
  rfl

/-- The error of a recording rule names it, and that of its definition does not. -/
theorem inline_error_differs :
    Acyclic (oneRule broken).recordings ∧ PlainRates (oneRule broken).recordings (named "x") ∧
      inline (oneRule broken).recordings (named "x") = broken ∧
      Evaluates (oneRule broken) (named "x") ∅
        (.error "recording-rule \"x\": unsupported function \"foo\"") ∅ ∧
      Evaluates (oneRule broken) broken ∅ (.error "unsupported function \"foo\"") ∅ := by
  have found := oneRule_found broken
  refine ⟨acyclic_oneRule rfl, fun _ member => absurd member List.not_mem_nil, ?_, ⟨2, ?_⟩, ⟨1, ?_⟩⟩
  · show definitionOf (oneRule broken).recordings { name := "x" } = broken
    rw [definitionOf, if_pos (by rfl), found]
    rfl
  · intro bound enough
    obtain ⟨bound, rfl⟩ := Nat.exists_eq_add_of_le' enough
    have ran : eval (oneRule broken) (bound + 1) broken (insert "x" ∅) =
        some (.error "unsupported function \"foo\"", insert "x" ∅) := by
      rw [eval, evalNode_broken]
      rfl
    exact @evalSelector_expand Extended (oneRule broken) ∅ { name := "x" } broken
      (eval (oneRule broken) (bound + 1)) _ found (Finset.notMem_empty _) ran
  · intro bound enough
    obtain ⟨bound, rfl⟩ := Nat.exists_eq_add_of_le' enough
    rw [eval, evalNode_broken]
    rfl

/-- `x` is `1`. -/
def constant : AstNode Extended :=
  .number (.finite 1)

/-- A name that stands for a constant ends, and agrees with the constant written in its place. -/
theorem evalNode_terminates_and_inlines_constant :
    ∃ outcome inlined, Evaluates (oneRule constant) (named "x") ∅ outcome ∅ ∧
      Evaluates (oneRule constant) ((inline (oneRule constant).recordings)^[2] (named "x")) ∅ inlined ∅ ∧
      Agrees (Wrapped (oneRule constant).recordings) outcome inlined := by
  refine (evalNode_terminates_and_inlines (oneRule constant) (named "x")).2 (acyclic_oneRule rfl)
    (fun _ member => absurd member List.not_mem_nil) (fun name definition found => ?_) 2
  rw [oneRule_definition found]
  exact fun _ member => absurd member List.not_mem_nil

end Instances

end Eval

end Slo

end MqConnector
