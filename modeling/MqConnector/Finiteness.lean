/-
This file asks whether the evaluation of an expression can give an infinity or a value
that is not a number.

From finite samples it does so in three places only: the division of a scalar by a scalar
that is zero, which is not filtered as every other division is; `rate` over a window of no
length, where the look-back answers; and a quantile that falls into a bucket without a
finite bound.
-/

import MqConnector.Printing
import MqConnector.Recordings

namespace MqConnector

namespace Slo

namespace Eval

open Parsing

/-! ### Outcomes -/

section Outcomes

variable {Value : Type} [Float64 Value] {context : Context Value} {expanding : Finset String}

/-- The outcome of an expression; there are enough expansions for one. -/
def evaluate (context : Context Value) (expanding : Finset String) (node : AstNode Value) :
    Except String (List (LabelSample Value)) :=
  match eval context ((pending context expanding).card + 1) node expanding with
  | some (outcome, _) => outcome
  | none => .error ""

theorem eval_eq_evaluate {bound : Nat} (enough : (pending context expanding).card < bound)
    (node : AstNode Value) :
    eval context bound node expanding = some (evaluate context expanding node, expanding) := by
  have alike : ∀ selector ∈ node.selectors, Alike context expanding expanding selector.name :=
    fun _ _ _ _ => Iff.rfl
  obtain ⟨outcome, second, ran, ranSecond, agrees⟩ := eval_alike (Nat.lt_succ_self _) enough alike
  rw [ranSecond, evaluate, ran, agrees.eq]

theorem evaluates_evaluate (context : Context Value) (expanding : Finset String) (node : AstNode Value) :
    Evaluates context node expanding (evaluate context expanding node) expanding :=
  ⟨(pending context expanding).card + 1, fun _ enough => eval_eq_evaluate (Nat.lt_of_succ_le enough) node⟩

theorem evalNode_evaluate (node : AstNode Value) :
    evalNode context (eval context (pending context expanding).card) node expanding =
      some (evaluate context expanding node, expanding) :=
  eval_eq_evaluate (Nat.lt_succ_self _) node

section Steps

variable {First Second : Type} {computation : Evaluation First} {next : First → Evaluation Second}
  {outcome : Except String First} {result : Second} {after : Finset String}

theorem bind_ok (ran : computation expanding = some (outcome, expanding))
    (bound : (computation >>= next) expanding = some (.ok result, after)) :
    ∃ first, outcome = .ok first ∧ next first expanding = some (.ok result, after) := by
  rw [run_bind ran] at bound
  cases outcome with
  | ok first => exact ⟨first, rfl, bound⟩
  | error failure => cases bound

end Steps

variable {args : List (AstNode Value)} {vector : List (LabelSample Value)}

theorem evalNode_number (context : Context Value)
    (expand : AstNode Value → Evaluation (List (LabelSample Value))) (expanding : Finset String)
    (value : Value) :
    evalNode context expand (.number value) expanding = some (.ok [{ labels := ∅, value }], expanding) := by
  rw [evalNode]
  rfl

theorem evaluate_number (value : Value) :
    evaluate context expanding (.number value) = .ok [{ labels := ∅, value }] := by
  have ran := @evalNode_evaluate Value _ context expanding (.number value)
  rw [evalNode_number] at ran
  exact (Prod.mk.inj (Option.some.inj ran)).1.symm

theorem evaluate_unaryMinus_ok {inner : AstNode Value}
    (known : evaluate context expanding (.unaryMinus inner) = .ok vector) :
    ∃ before, evaluate context expanding inner = .ok before ∧ vector = negate before := by
  have ran := @evalNode_evaluate Value _ context expanding (.unaryMinus inner)
  rw [known, evalNode] at ran
  obtain ⟨before, same, further⟩ := bind_ok (evalNode_evaluate inner) ran
  cases further
  exact ⟨before, same, rfl⟩

theorem evalBinary_run (op : TokenKind) (opString : String)
    {lhs rhs : Evaluation (List (LabelSample Value))} {left right : List (LabelSample Value)}
    (ranLeft : lhs expanding = some (.ok left, expanding))
    (ranRight : rhs expanding = some (.ok right, expanding)) :
    evalBinary op opString lhs rhs expanding = some (combine op opString left right, expanding) := by
  unfold evalBinary
  rw [run_bind ranLeft]
  show (rhs >>= _) expanding = _
  rw [run_bind ranRight]
  rfl

theorem evaluate_binary_ok {op : TokenKind} {opString : String} {lhs rhs : AstNode Value}
    (known : evaluate context expanding (.binary op opString lhs rhs) = .ok vector) :
    ∃ left right, evaluate context expanding lhs = .ok left ∧ evaluate context expanding rhs = .ok right ∧
      combine op opString left right = .ok vector := by
  have ran := @evalNode_evaluate Value _ context expanding (.binary op opString lhs rhs)
  rw [known, evalNode] at ran
  obtain ⟨left, sameLeft, further⟩ := bind_ok (evalNode_evaluate lhs) ran
  obtain ⟨right, sameRight, further⟩ := bind_ok (evalNode_evaluate rhs) further
  exact ⟨left, right, sameLeft, sameRight, (Prod.mk.inj (Option.some.inj further)).1⟩

theorem evaluate_plain {selector : VectorSelector}
    (plain : context.recordings[selector.name]? = none ∨ selector.name ∈ expanding) :
    evaluate context expanding (.vectorSelector selector) = select context selector none := by
  have ran := @evalNode_evaluate Value _ context expanding (.vectorSelector selector)
  have selected : ∀ expand, evalSelector context expand selector expanding =
      some (select context selector none, expanding) := by
    intro expand
    cases found : context.recordings[selector.name]? with
    | none => exact evalSelector_plain found
    | some definition => exact evalSelector_busy found (plain.resolve_left (by simp [found]))
  rw [evalNode, selected] at ran
  exact (Prod.mk.inj (Option.some.inj ran)).1.symm

theorem evaluate_expanded {selector : VectorSelector} {definition : AstNode Value}
    (found : context.recordings[selector.name]? = some definition) (absent : selector.name ∉ expanding) :
    evaluate context expanding (.vectorSelector selector) =
      select context selector (some (evaluate context (insert selector.name expanding) definition)) := by
  have ran := @evalNode_evaluate Value _ context expanding (.vectorSelector selector)
  have expanded := eval_eq_evaluate (pending_insert found absent) definition
  rw [evalNode, evalSelector_expand found absent expanded] at ran
  exact (Prod.mk.inj (Option.some.inj ran)).1.symm

section Calls

variable {name : String} {byLabels : List String}

theorem evalFunc_evaluate (known : evaluate context expanding (.funcCall name args byLabels) = .ok vector) :
    evalFunc (args.map (evalNode context (eval context (pending context expanding).card))) context
      (eval context (pending context expanding).card) name args byLabels expanding =
      some (.ok vector, expanding) := by
  have ran := @evalNode_evaluate Value _ context expanding (.funcCall name args byLabels)
  rw [known, evalNode, evalArgs_eq] at ran
  exact ran

theorem evalAggregator_ok {operation : Aggregation} {label : String}
    (ran : evalAggregator (args.map (evalNode context (eval context (pending context expanding).card)))
      label operation byLabels expanding = some (.ok vector, expanding)) :
    ∃ arg before, args = [arg] ∧ evaluate context expanding arg = .ok before ∧
      vector = aggregate before byLabels operation := by
  match args with
  | [] => cases ran
  | [arg] =>
    obtain ⟨before, same, further⟩ := bind_ok (evalNode_evaluate arg) ran
    cases further
    exact ⟨arg, before, rfl, same, rfl⟩
  | _ :: _ :: _ => cases ran

theorem evalClamp_ok {isMin : Bool}
    (ran : evalClamp (args.map (evalNode context (eval context (pending context expanding).card)))
      isMin expanding = some (.ok vector, expanding)) :
    ∃ arg bound before found limit, args = [arg, bound] ∧ evaluate context expanding arg = .ok before ∧
      evaluate context expanding bound = .ok found ∧ scalar? found = some limit ∧
      vector = clamp isMin before limit := by
  match args with
  | [] => cases ran
  | [_] => cases ran
  | [arg, bound] =>
    obtain ⟨before, same, further⟩ := bind_ok (evalNode_evaluate arg) ran
    obtain ⟨found, sameBound, further⟩ := bind_ok (evalNode_evaluate bound) further
    cases scalar : scalar? found with
    | none =>
      rw [scalar] at further
      cases further
    | some limit =>
      rw [scalar] at further
      cases further
      exact ⟨arg, bound, before, found, limit, rfl, same, sameBound, scalar, rfl⟩
  | _ :: _ :: _ :: _ => cases ran

theorem evalHistogramQuantile_ok
    (ran : evalHistogramQuantile (args.map (evalNode context (eval context (pending context expanding).card)))
      context expanding = some (.ok vector, expanding)) :
    ∃ arg buckets found quantile before, args = [arg, buckets] ∧
      evaluate context expanding arg = .ok found ∧ scalar? found = some quantile ∧
      evaluate context expanding buckets = .ok before ∧
      vector = histogramQuantile context quantile before := by
  match args with
  | [] => cases ran
  | [_] => cases ran
  | [arg, buckets] =>
    obtain ⟨found, same, further⟩ := bind_ok (evalNode_evaluate arg) ran
    cases scalar : scalar? found with
    | none =>
      rw [scalar] at further
      cases further
    | some quantile =>
      rw [scalar] at further
      obtain ⟨before, sameBuckets, further⟩ := bind_ok (evalNode_evaluate buckets) further
      cases further
      exact ⟨arg, buckets, found, quantile, before, rfl, same, scalar, sameBuckets, rfl⟩
  | _ :: _ :: _ :: _ => cases ran

theorem evalRate_ok
    (ran : evalRate context (eval context (pending context expanding).card) args expanding =
      some (.ok vector, expanding)) :
    ∃ selector window current, args = [.vectorSelector selector] ∧
      parseDurationSeconds selector.duration = .ok window ∧
      evaluate context expanding (.vectorSelector { selector with duration := "" }) = .ok current ∧
      vector = current.map (rateSample Float64.toInt64
        { current := context.current, historyAt := context.historyAt } selector.name window) := by
  match args with
  | [] => cases ran
  | [.number _] => cases ran
  | [.binary _ _ _ _] => cases ran
  | [.unaryMinus _] => cases ran
  | [.funcCall _ _ _] => cases ran
  | [.vectorSelector selector] =>
    unfold evalRate at ran
    dsimp only at ran
    split at ran
    · cases ran
    · cases parsed : (parseDurationSeconds selector.duration : Except String Value) with
      | error failure =>
        rw [parsed] at ran
        cases ran
      | ok window =>
        rw [parsed] at ran
        obtain ⟨current, same, further⟩ :=
          bind_ok (evalNode_evaluate (.vectorSelector { selector with duration := "" })) ran
        cases further
        exact ⟨selector, window, current, rfl, parsed, same, rfl⟩
  | first :: _ :: _ => cases first <;> cases ran

end Calls

end Outcomes

/-! ### Finite samples -/

section Vectors

variable {lhs rhs vector : List (LabelSample Extended)} {value other : Extended}

def FiniteVector (vector : List (LabelSample Extended)) : Prop :=
  ∀ sample ∈ vector, sample.value.IsFinite

theorem finite_filter (finite : FiniteVector vector) (keep : LabelSample Extended → Bool) :
    FiniteVector (vector.filter keep) :=
  fun sample member => finite sample (List.mem_of_mem_filter member)

theorem finite_scalar (finite : FiniteVector vector) (scalar : scalar? vector = some value) :
    value.IsFinite := by
  match vector with
  | [] => cases scalar
  | [sample] =>
    have scalar : (if sample.labels.isEmpty then some sample.value else none) = some value := scalar
    split at scalar
    · obtain rfl := Option.some.inj scalar
      exact finite sample (List.mem_singleton_self sample)
    · cases scalar
  | _ :: _ :: _ => cases scalar

theorem finite_or (finite : FiniteVector lhs) (finiteOther : FiniteVector rhs) :
    FiniteVector (vectorOr lhs rhs) :=
  List.forall_mem_append.mpr ⟨finite, finite_filter finiteOther _⟩

theorem finite_compare (finite : FiniteVector lhs) (op : TokenKind) :
    FiniteVector (vectorCompare lhs rhs op) := by
  unfold vectorCompare
  split
  · exact finite_filter finite _
  · exact finite_filter finite _

theorem finite_usable {outcome : Except String Extended} (passed : usable outcome = some value) :
    value.IsFinite := by
  unfold usable at passed
  split at passed
  · rename_i found
    split at passed
    · cases passed
    · rename_i plain
      obtain rfl := Option.some.inj passed
      match found, plain with
      | .finite exact, _ => exact ⟨exact, rfl⟩
      | .posInf, plain => exact absurd rfl plain
      | .negInf, plain => exact absurd rfl plain
      | .nan, plain => exact absurd rfl plain
  · cases passed

/-- The division of a scalar by a scalar that is zero. -/
def DividesByZero (op : TokenKind) (lhs rhs : List (LabelSample Extended)) : Prop :=
  op = .slash ∧ (scalar? lhs).isSome ∧ scalar? rhs = some 0

theorem finite_arith {op : TokenKind} {result : Extended} (finite : value.IsFinite)
    (finiteOther : other.IsFinite) (divides : op = .slash → other ≠ 0) (same : arith op value other = .ok result) :
    result.IsFinite := by
  unfold arith at same
  split at same
  · obtain rfl := Except.ok.inj same
    exact finite.add finiteOther
  · obtain rfl := Except.ok.inj same
    exact finite.sub finiteOther
  · obtain rfl := Except.ok.inj same
    exact finite.mul finiteOther
  · have nonzero := divides rfl
    have unequal : Float64.equal other 0 = false := by
      show Extended.isEqual other 0 = false
      simp [Extended.isEqual, nonzero]
    rw [unequal, if_neg Bool.false_ne_true] at same
    obtain rfl := Except.ok.inj same
    exact finite.div finiteOther nonzero
  · cases same

theorem finite_vectorArith {op : TokenKind} (finite : FiniteVector lhs) (finiteOther : FiniteVector rhs)
    (whole : ¬ DividesByZero op lhs rhs) (same : vectorArith lhs rhs op = .ok vector) :
    FiniteVector vector := by
  unfold vectorArith at same
  split at same
  · rename_i value other scalar scalarOther
    cases computed : arith op value other with
    | error failure =>
      rw [computed] at same
      cases same
    | ok result =>
      rw [computed] at same
      obtain rfl := Except.ok.inj same
      intro sample member
      obtain rfl := List.mem_singleton.mp member
      refine finite_arith (finite_scalar finite scalar) (finite_scalar finiteOther scalarOther) ?_ computed
      rintro rfl rfl
      exact whole ⟨rfl, by rw [scalar]; rfl, scalarOther⟩
  all_goals
    obtain rfl := Except.ok.inj same
    intro sample member
    obtain ⟨before, -, found⟩ := List.mem_filterMap.mp member
  · obtain ⟨result, passed, rfl⟩ := Option.map_eq_some_iff.mp found
    exact finite_usable passed
  · obtain ⟨result, passed, rfl⟩ := Option.map_eq_some_iff.mp found
    exact finite_usable passed
  · obtain ⟨other, -, found⟩ := Option.bind_eq_some_iff.mp found
    obtain ⟨result, passed, rfl⟩ := Option.map_eq_some_iff.mp found
    exact finite_usable passed

theorem finite_combine {op : TokenKind} {opString : String} (finite : FiniteVector lhs)
    (finiteOther : FiniteVector rhs) (whole : ¬ DividesByZero op lhs rhs)
    (same : combine op opString lhs rhs = .ok vector) : FiniteVector vector := by
  unfold combine at same
  split at same
  · obtain rfl := Except.ok.inj same
    exact finite_filter finite _
  · split at same
    · obtain rfl := Except.ok.inj same
      exact finite_or finite finiteOther
    · split at same
      · obtain rfl := Except.ok.inj same
        exact finite_filter finite _
      · split at same
        · obtain rfl := Except.ok.inj same
          exact finite_compare finite op
        · exact finite_vectorArith finite finiteOther whole same

/-- The items of groups all have a property, and no group is empty. -/
def Grouped {Item : Type} (property : Item → Prop) (groups : List (Group Item)) : Prop :=
  ∀ group ∈ groups, group.items ≠ [] ∧ ∀ item ∈ group.items, property item

theorem grouped_addToGroup {Item : Type} {property : Item → Prop} {groups : List (Group Item)}
    (grouped : Grouped property groups) (key : String) (labels : Labels) {item : Item}
    (known : property item) : Grouped property (addToGroup groups key labels item) := by
  unfold addToGroup
  split
  · intro group member
    obtain ⟨before, memberBefore, rfl⟩ := List.mem_map.mp member
    obtain ⟨nonempty, each⟩ := grouped before memberBefore
    split
    · exact ⟨by simp, List.forall_mem_append.mpr ⟨each, by simpa using known⟩⟩
    · exact ⟨nonempty, each⟩
  · refine List.forall_mem_append.mpr ⟨grouped, ?_⟩
    intro group member
    obtain rfl := List.mem_singleton.mp member
    exact ⟨by simp, by simpa using known⟩

theorem finite_sum {values : List Extended} (finite : ∀ value ∈ values, value.IsFinite) :
    (values.foldl (· + ·) 0).IsFinite := by
  refine List.foldlRecOn values (· + ·) Extended.isFinite_zero fun sum known value member => ?_
  exact known.add (finite value member)

theorem finite_aggregateValues {values : List Extended} (nonempty : values ≠ [])
    (finite : ∀ value ∈ values, value.IsFinite) (operation : Aggregation) :
    (aggregateValues operation values).IsFinite := by
  cases operation with
  | sum => exact finite_sum finite
  | avg =>
    refine (finite_sum finite).div (Extended.isFinite_cast _) fun same => ?_
    have length : (values.length : ℚ) = 0 := Extended.finite.inj same
    exact nonempty (List.length_eq_zero_iff.mp (by exact_mod_cast length))
  | min =>
    obtain ⟨first, rest, rfl⟩ := List.exists_cons_of_ne_nil nonempty
    obtain ⟨⟨exact, rfl⟩, others⟩ := List.forall_mem_cons.mp finite
    refine List.foldlRecOn rest _ ⟨exact, rfl⟩ fun least known value member => ?_
    split
    · exact others value member
    · exact known
  | max =>
    obtain ⟨first, rest, rfl⟩ := List.exists_cons_of_ne_nil nonempty
    obtain ⟨⟨exact, rfl⟩, others⟩ := List.forall_mem_cons.mp finite
    refine List.foldlRecOn rest _ ⟨exact, rfl⟩ fun greatest known value member => ?_
    split
    · exact others value member
    · exact known
  | count => exact Extended.isFinite_cast _

theorem finite_aggregate (finite : FiniteVector vector) (byLabels : List String) (operation : Aggregation) :
    FiniteVector (aggregate vector byLabels operation) := by
  intro sample member
  obtain ⟨group, known, rfl⟩ := List.mem_map.mp member
  have grouped : Grouped Extended.IsFinite (vector.foldl (fun groups sample =>
      addToGroup groups (groupKey sample.labels byLabels).1 (groupKey sample.labels byLabels).2 sample.value)
      []) := by
    refine List.foldlRecOn vector _ (fun _ member => absurd member List.not_mem_nil) ?_
    exact fun groups grouped sample member => grouped_addToGroup grouped _ _ (finite sample member)
  obtain ⟨nonempty, each⟩ := grouped group known
  exact finite_aggregateValues nonempty each operation

theorem finite_negate (finite : FiniteVector vector) : FiniteVector (negate vector) := by
  intro sample member
  obtain ⟨before, known, rfl⟩ := List.mem_map.mp member
  exact (finite before known).neg

theorem finite_clamp (finite : FiniteVector vector) {limit : Extended} (bounded : limit.IsFinite)
    (isMin : Bool) : FiniteVector (clamp isMin vector limit) := by
  intro sample member
  obtain ⟨before, known, rfl⟩ := List.mem_map.mp member
  have either (beyond : Bool) : (if beyond then limit else before.value).IsFinite := by
    split
    · exact bounded
    · exact finite before known
  exact either _

end Vectors

/-! ### Quantiles -/

section Quantiles

variable {vector : List (LabelSample Extended)}

/-- The bucket of the target has finite bounds; or it is empty or the last one without a bound, and
the one before has a finite bound. -/
def BoundedBucket (target : Extended) : Extended → Extended → List (HistPoint Extended) → Prop
  | prevLE, _, [] => prevLE.IsFinite
  | prevLE, prevCount, point :: rest =>
    if target ≤ point.count then
      prevLE.IsFinite ∧ (point.count - prevCount ≤ 0 ∨ point.le = .posInf ∨ point.le.IsFinite)
    else BoundedBucket target point.le point.count rest

/-- The quantile of every histogram falls into such a bucket. -/
def BoundedQuantile (context : Context Extended) (quantile : Extended)
    (vector : List (LabelSample Extended)) : Prop :=
  ∀ group ∈ histograms vector, ∀ last ∈ (context.sortPoints group.items).getLast?, ¬ last.count ≤ 0 →
    BoundedBucket (quantile * last.count) 0 0 (context.sortPoints group.items)

theorem finite_resolve {target prevLE prevCount : Extended} {points : List (HistPoint Extended)}
    (finiteTarget : target.IsFinite) (finiteCount : prevCount.IsFinite)
    (finite : ∀ point ∈ points, (HistPoint.count point).IsFinite)
    (bounded : BoundedBucket target prevLE prevCount points) :
    (resolve target prevLE prevCount points).IsFinite := by
  induction points generalizing prevLE prevCount with
  | nil => exact bounded
  | cons point rest hypothesis =>
    obtain ⟨here, others⟩ := List.forall_mem_cons.mp finite
    unfold BoundedBucket at bounded
    unfold resolve
    split at bounded
    · rename_i reached
      obtain ⟨finiteBefore, either⟩ := bounded
      rw [if_pos reached]
      dsimp only
      split
      · exact finiteBefore
      · rename_i inner
        obtain ⟨counted, unbounded⟩ := not_or.mp inner
        have nonzero : point.count - prevCount ≠ 0 := by
          intro empty
          rw [empty] at counted
          exact counted (by decide)
        have finiteBound : point.le.IsFinite := by
          rcases either with empty | last | finiteBound
          · exact absurd empty counted
          · rw [last] at unbounded
            exact absurd rfl unbounded
          · exact finiteBound
        exact finiteBefore.add ((finiteBound.sub finiteBefore).mul
          ((finiteTarget.sub finiteCount).div (here.sub finiteCount) nonzero))
    · rename_i below
      rw [if_neg below]
      exact hypothesis here others bounded

theorem finite_histogramQuantile {context : Context Extended} {quantile : Extended}
    (finite : FiniteVector vector) (finiteQuantile : quantile.IsFinite)
    (bounded : BoundedQuantile context quantile vector) :
    FiniteVector (histogramQuantile context quantile vector) := by
  have grouped : Grouped (fun point : HistPoint Extended => point.count.IsFinite) (histograms vector) := by
    refine List.foldlRecOn vector _ (fun _ member => absurd member List.not_mem_nil) ?_
    intro groups grouped sample member
    dsimp only
    split
    · exact grouped
    · exact grouped_addToGroup grouped _ _ (finite sample member)
  intro sample member
  obtain ⟨group, known, found⟩ := List.mem_filterMap.mp member
  obtain ⟨value, same, rfl⟩ := Option.map_eq_some_iff.mp found
  obtain ⟨last, isLast, rfl⟩ := Option.map_eq_some_iff.mp same
  have counts : ∀ point ∈ context.sortPoints group.items, point.count.IsFinite := fun point member =>
    (grouped group known).2 point ((context.permutes group.items).mem_iff.mp member)
  have lastCount : last.count.IsFinite := counts last (List.mem_of_getLast? isLast)
  dsimp only
  split
  · exact Extended.isFinite_zero
  · rename_i positive
    exact finite_resolve (finiteQuantile.mul lastCount) Extended.isFinite_zero counts
      (bounded group known last isLast positive)

end Quantiles

/-! ### Rates -/

section Rates

variable {context : Context Extended}

/-- The snapshot and the look-back are finite, and the recording rules were parsed. -/
structure FiniteContext (context : Context Extended) : Prop where
  current : FiniteVector context.current
  history : ∀ historyAt, context.historyAt = some historyAt → ∀ name labels ago value,
    historyAt name labels ago = some value → value.IsFinite
  recordings : ∀ (name : String) definition, context.recordings[name]? = some definition →
    ∃ src, parsePromQL src = .ok definition

/-- The window has no length, and the look-back over it answers. -/
def EmptyWindow (context : Context Extended) (name : String) (window : Extended)
    (current : List (LabelSample Extended)) : Prop :=
  window = 0 ∧ ∃ sample ∈ current, ∃ historyAt previous, context.historyAt = some historyAt ∧
    historyAt name sample.labels (Float64.toInt64 (window * ((1000000000 : ℚ) : Extended))) = some previous

theorem finite_window {text : String} {window : Extended} (parsed : parseDurationSeconds text = .ok window) :
    window.IsFinite := by
  unfold parseDurationSeconds at parsed
  have thousand : ((1000 : ℚ) : Extended) ≠ 0 := by decide
  dsimp only at parsed
  split at parsed
  · cases parsed
  · split at parsed
    · cases parsed
    · rename_i exact _
      have count := Extended.isFinite_cast exact
      have times (unit : ℚ) : ((exact : Extended) * (unit : Extended)).IsFinite :=
        count.mul (Extended.isFinite_cast unit)
      split at parsed
      · cases parsed
        exact count
      · cases parsed
        exact times 60
      · cases parsed
        exact times 3600
      · cases parsed
        exact times 86400
      · cases parsed
        exact (times 7).mul (Extended.isFinite_cast 86400)
      · cases parsed
        exact (times 365).mul (Extended.isFinite_cast 86400)
      · cases parsed
        exact count.div (Extended.isFinite_cast 1000) thousand
      · cases parsed

theorem finite_rate {current : List (LabelSample Extended)} {name : String} {window : Extended}
    (finiteContext : FiniteContext context) (finite : FiniteVector current) (finiteWindow : window.IsFinite)
    (nonempty : ¬ EmptyWindow context name window current) :
    FiniteVector (current.map (rateSample Float64.toInt64
      { current := context.current, historyAt := context.historyAt } name window)) := by
  intro sample member
  obtain ⟨before, known, rfl⟩ := List.mem_map.mp member
  unfold rateSample
  dsimp only
  split
  · exact Extended.isFinite_zero
  · rename_i previous answered
    obtain ⟨historyAt, given, answered⟩ := Option.bind_eq_some_iff.mp answered
    have finitePrevious := finiteContext.history historyAt given _ _ _ _ answered
    have nonzero : window ≠ 0 := fun zero =>
      nonempty ⟨zero, before, known, historyAt, previous, given, answered⟩
    have delta := (finite before known).sub finitePrevious
    dsimp only
    split
    · exact Extended.isFinite_zero.div finiteWindow nonzero
    · exact delta.div finiteWindow nonzero

theorem finite_select {selector : VectorSelector} {vector : List (LabelSample Extended)}
    {expansion : Option (Except String (List (LabelSample Extended)))} (finiteContext : FiniteContext context)
    (finite : ∀ before, expansion = some (.ok before) → FiniteVector before)
    (same : select context selector expansion = .ok vector) : FiniteVector vector := by
  unfold select Slo.evalSelector at same
  dsimp only at same
  split at same
  · cases same
  · rename_i before
    obtain rfl := Except.ok.inj same
    unfold filterByMatchers
    split
    · exact finite before rfl
    · exact finite_filter (finite before rfl) _
  · obtain rfl := Except.ok.inj same
    intro sample member
    obtain ⟨before, known, rfl⟩ := List.mem_map.mp member
    exact finiteContext.current before (List.mem_of_mem_filter known)

end Rates

/-! ### Trees -/

inductive FiniteNode : AstNode Extended → Prop
  | number {value : Extended} (finite : value.IsFinite) : FiniteNode (.number value)
  | vectorSelector (selector : VectorSelector) : FiniteNode (.vectorSelector selector)
  | binary (op : TokenKind) (opString : String) {lhs rhs : AstNode Extended} (left : FiniteNode lhs)
      (right : FiniteNode rhs) : FiniteNode (.binary op opString lhs rhs)
  | unaryMinus {inner : AstNode Extended} (finite : FiniteNode inner) : FiniteNode (.unaryMinus inner)
  | funcCall (name : String) {args : List (AstNode Extended)} (byLabels : List String)
      (finite : ∀ arg ∈ args, FiniteNode arg) : FiniteNode (.funcCall name args byLabels)

/-- What the operands before a symbol have to be. -/
def finiteBefore : Nonterminal Extended → Prop
  | .tail _ lhs => FiniteNode lhs
  | _ => True

theorem finiteNode_of_derives {symbol : Nonterminal Extended} {tokens : List Token}
    {nodes : List (AstNode Extended)} (derived : Derives symbol tokens nodes) :
    finiteBefore symbol → ∀ node ∈ nodes, FiniteNode node := by
  have operand (level : Level) : finiteBefore level.operand := by
    cases level <;> trivial
  have single {node : AstNode Extended} (finite : FiniteNode node) :
      ∀ found ∈ [node], FiniteNode found := by
    simpa using finite
  induction derived with
  | expr _ inner => exact fun _ => inner trivial
  | chain _ _ first others => exact fun _ => others (first (operand _) _ (List.mem_singleton_self _))
  | done => exact fun before => single before
  | step _ _ _ second others =>
    intro before
    exact others (.binary _ _ before (second (operand _) _ (List.mem_singleton_self _)))
  | uncompared _ inner => exact fun _ => inner trivial
  | compared _ _ _ left right =>
    exact fun _ => single (.binary _ _ (left trivial _ (List.mem_singleton_self _))
      (right trivial _ (List.mem_singleton_self _)))
  | unsigned _ inner => exact fun _ => inner trivial
  | minus _ _ inner => exact fun _ => single (.unaryMinus (inner trivial _ (List.mem_singleton_self _)))
  | number _ _ => exact fun _ => single (.number (Extended.isFinite_cast _))
  | parens _ _ _ inner => exact fun _ => inner trivial
  | call _ _ inner => exact fun _ => single (.funcCall _ _ (inner trivial))
  | callBy _ _ _ _ inner => exact fun _ => single (.funcCall _ _ (inner trivial))
  | byCall _ _ _ _ inner => exact fun _ => single (.funcCall _ _ (inner trivial))
  | selector _ _ _ => exact fun _ => single (.vectorSelector _)
  | noArgs _ _ => exact fun _ _ member => absurd member List.not_mem_nil
  | someArgs _ _ _ inner => exact fun _ => inner trivial
  | lastArg _ inner => exact fun _ => inner trivial
  | nextArg _ _ _ inner others =>
    exact fun _ => List.forall_mem_cons.mpr
      ⟨inner trivial _ (List.mem_singleton_self _), others trivial⟩

/-- Numbers that are read are finite. -/
theorem finiteNode_of_parsed {src : String} {node : AstNode Extended}
    (parsed : parsePromQL src = .ok node) : FiniteNode node := by
  obtain ⟨tokens, lexed, -⟩ := bind_eq_ok.mp parsed
  have derived := (parsePromQL_eq_ok_iff lexed node).mp parsed
  exact finiteNode_of_derives derived trivial node (List.mem_singleton_self node)

/-! ### Clean evaluations -/

/-- An evaluation that divides no scalar by a scalar that is zero, takes no rate over an empty window
where the look-back answers, and takes no quantile from a bucket without finite bounds. What is not
evaluated does not count. -/
inductive Clean (context : Context Extended) : Finset String → AstNode Extended → Prop
  | number {expanding : Finset String} (value : Extended) : Clean context expanding (.number value)
  | unaryMinus {expanding : Finset String} {inner : AstNode Extended} (clean : Clean context expanding inner) :
      Clean context expanding (.unaryMinus inner)
  | plain {expanding : Finset String} {selector : VectorSelector}
      (plain : context.recordings[selector.name]? = none ∨ selector.name ∈ expanding) :
      Clean context expanding (.vectorSelector selector)
  | expanded {expanding : Finset String} {selector : VectorSelector} {definition : AstNode Extended}
      (found : context.recordings[selector.name]? = some definition)
      (absent : selector.name ∉ expanding)
      (clean : Clean context (insert selector.name expanding) definition) :
      Clean context expanding (.vectorSelector selector)
  | binary {expanding : Finset String} {op : TokenKind} {opString : String} {lhs rhs : AstNode Extended}
      (left : Clean context expanding lhs)
      (right : ∀ before, evaluate context expanding lhs = .ok before → Clean context expanding rhs)
      (whole : ∀ before behind, evaluate context expanding lhs = .ok before →
        evaluate context expanding rhs = .ok behind → ¬ DividesByZero op before behind) :
      Clean context expanding (.binary op opString lhs rhs)
  | rate {expanding : Finset String} {name : String} {args : List (AstNode Extended)}
      {byLabels : List String} (named : name.toLower = "rate")
      (clean : ∀ selector (window : Extended), args = [.vectorSelector selector] →
        parseDurationSeconds selector.duration = .ok window →
        Clean context expanding (.vectorSelector { selector with duration := "" }))
      (nonempty : ∀ selector (window : Extended) current, args = [.vectorSelector selector] →
        parseDurationSeconds selector.duration = .ok window →
        evaluate context expanding (.vectorSelector { selector with duration := "" }) = .ok current →
        ¬ EmptyWindow context selector.name window current) :
      Clean context expanding (.funcCall name args byLabels)
  | aggregator {expanding : Finset String} {name : String} {args : List (AstNode Extended)}
      {byLabels : List String} (named : name.toLower ∈ ["sum", "avg", "min", "max", "count"])
      (clean : ∀ arg, args = [arg] → Clean context expanding arg) :
      Clean context expanding (.funcCall name args byLabels)
  | clamp {expanding : Finset String} {name : String} {args : List (AstNode Extended)}
      {byLabels : List String} (named : name.toLower ∈ ["clamp_min", "clamp_max"])
      (clean : ∀ arg bound, args = [arg, bound] → Clean context expanding arg)
      (cleanBound : ∀ arg bound before, args = [arg, bound] → evaluate context expanding arg = .ok before →
        Clean context expanding bound) :
      Clean context expanding (.funcCall name args byLabels)
  | quantile {expanding : Finset String} {name : String} {args : List (AstNode Extended)}
      {byLabels : List String} (named : name.toLower = "histogram_quantile")
      (clean : ∀ arg buckets, args = [arg, buckets] → Clean context expanding arg)
      (cleanBuckets : ∀ arg buckets found quantile, args = [arg, buckets] →
        evaluate context expanding arg = .ok found → scalar? found = some quantile →
        Clean context expanding buckets)
      (bounded : ∀ arg buckets found quantile before, args = [arg, buckets] →
        evaluate context expanding arg = .ok found → scalar? found = some quantile →
        evaluate context expanding buckets = .ok before → BoundedQuantile context quantile before) :
      Clean context expanding (.funcCall name args byLabels)
  | unsupported {expanding : Finset String} {name : String} {args : List (AstNode Extended)}
      {byLabels : List String} (unknown : name.toLower ∉ ["rate", "sum", "clamp_min", "clamp_max",
        "histogram_quantile", "avg", "min", "max", "count"]) :
      Clean context expanding (.funcCall name args byLabels)

/-- A clean expression over finite samples has finite values. -/
theorem finite_of_clean {context : Context Extended} (finiteContext : FiniteContext context)
    {expanding : Finset String} {node : AstNode Extended} (clean : Clean context expanding node)
    (finite : FiniteNode node) {vector : List (LabelSample Extended)}
    (same : evaluate context expanding node = .ok vector) : FiniteVector vector := by
  induction clean generalizing vector with
  | @number expanding value =>
    rw [evaluate_number] at same
    obtain rfl := Except.ok.inj same
    cases finite with
    | number finite => simpa [FiniteVector] using finite
  | unaryMinus _ inner =>
    obtain ⟨before, known, rfl⟩ := evaluate_unaryMinus_ok same
    cases finite with
    | unaryMinus finite => exact finite_negate (inner finite known)
  | plain plain =>
    rw [evaluate_plain plain] at same
    exact finite_select finiteContext (fun _ given => by cases given) same
  | @expanded expanding selector definition found absent _ inner =>
    rw [evaluate_expanded found absent] at same
    obtain ⟨src, parsed⟩ := finiteContext.recordings selector.name definition found
    exact finite_select finiteContext
      (fun before known => inner (finiteNode_of_parsed parsed) (Option.some.inj known)) same
  | binary _ _ whole left right =>
    obtain ⟨before, behind, knownLeft, knownRight, combined⟩ := evaluate_binary_ok same
    cases finite with
    | binary _ _ finiteLeft finiteRight =>
      exact finite_combine (left finiteLeft knownLeft) (right before knownLeft finiteRight knownRight)
        (whole before behind knownLeft knownRight) combined
  | rate named _ nonempty inner =>
    have ran := evalFunc_evaluate same
    rw [evalFunc, named] at ran
    obtain ⟨selector, window, current, rfl, parsed, known, rfl⟩ := evalRate_ok ran
    exact finite_rate finiteContext (inner selector window rfl parsed (.vectorSelector _) known)
      (finite_window parsed) (nonempty selector window current rfl parsed known)
  | aggregator named _ inner =>
    have ran := evalFunc_evaluate same
    cases finite with
    | funcCall _ _ finite =>
      simp only [List.mem_cons, List.not_mem_nil, or_false] at named
      rcases named with named | named | named | named | named <;>
      · rw [evalFunc, named] at ran
        obtain ⟨arg, before, rfl, known, rfl⟩ := evalAggregator_ok ran
        exact finite_aggregate (inner arg rfl (finite arg (List.mem_singleton_self arg)) known) _ _
  | clamp named _ _ inner innerBound =>
    have ran := evalFunc_evaluate same
    cases finite with
    | funcCall _ _ finite =>
      simp only [List.mem_cons, List.not_mem_nil, or_false] at named
      rcases named with named | named <;>
      · rw [evalFunc, named] at ran
        obtain ⟨arg, bound, before, found, limit, rfl, known, knownBound, scalar, rfl⟩ := evalClamp_ok ran
        obtain ⟨finiteArg, others⟩ := List.forall_mem_cons.mp finite
        have finiteLimit := finite_scalar
          (innerBound arg bound before rfl known (others bound (List.mem_singleton_self bound)) knownBound) scalar
        exact finite_clamp (inner arg bound rfl finiteArg known) finiteLimit _
  | quantile named _ _ bounded inner innerBuckets =>
    have ran := evalFunc_evaluate same
    rw [evalFunc, named] at ran
    obtain ⟨arg, buckets, found, quantile, before, rfl, known, scalar, knownBuckets, rfl⟩ :=
      evalHistogramQuantile_ok ran
    cases finite with
    | funcCall _ _ finite =>
      obtain ⟨finiteArg, others⟩ := List.forall_mem_cons.mp finite
      have finiteQuantile := finite_scalar (inner arg buckets rfl finiteArg known) scalar
      have finiteBuckets := innerBuckets arg buckets found quantile rfl known scalar
        (others buckets (List.mem_singleton_self buckets)) knownBuckets
      exact finite_histogramQuantile finiteBuckets finiteQuantile
        (bounded arg buckets found quantile before rfl known scalar knownBuckets)
  | unsupported unknown =>
    have ran := evalFunc_evaluate same
    unfold evalFunc at ran
    generalize String.toLower _ = word at ran unknown
    split at ran
    case h_10 => cases ran
    all_goals exact absurd (by simp) unknown

/-- Where the evaluation of a parsed expression over finite samples is clean, no sample at the top is
an infinity or not a number. -/
theorem evalNode_finite {src : String} {node : AstNode Extended} (parsed : parsePromQL src = .ok node)
    {context : Context Extended} (finiteContext : FiniteContext context) (clean : Clean context ∅ node)
    {vector : List (LabelSample Extended)} {after : Finset String}
    (evaluates : Evaluates context node ∅ (.ok vector) after) : FiniteVector vector := by
  have same := (evaluates_evaluate context ∅ node).unique evaluates
  exact finite_of_clean finiteContext clean (finiteNode_of_parsed parsed) same

section Instances

/-- Nothing is measured, and there are no recording rules. -/
def nothing : Context Extended where
  current := []
  sortPoints := id
  permutes samples := show (id samples).Perm samples from .rfl

theorem finiteContext_nothing : FiniteContext nothing where
  current _ member := absurd member List.not_mem_nil
  history _ given := by cases given
  recordings name definition found := by
    have found : (∅ : Std.ExtTreeMap String (AstNode Extended))[name]? = some definition := found
    simp at found

/-- `1 / 0`. -/
def oneByZero : AstNode Extended :=
  .binary .slash "/" (.number (.finite 1)) (.number (.finite 0))

/-- How `1 / d != 5` is parsed, for a digit `d`. -/
theorem parsePromQL_oneBy {src : String} (digit : String) (value : ℚ)
    (lexed : tokenize src = .ok [⟨.number, "1", 0⟩, ⟨.slash, "/", 2⟩, ⟨.number, digit, 4⟩,
      ⟨.neq, "!=", 6⟩, ⟨.number, "5", 9⟩, ⟨.eof, "", 10⟩])
    (read : parseFloat digit = .ok value) :
    parsePromQL src = .ok (.binary .neq "!=" (.binary .slash "/" (.number ((1 : ℚ) : Extended))
      (.number (value : Extended))) (.number (.finite 5))) := by
  have one : Derives .primary [⟨.number, "1", 0⟩] [.number ((1 : ℚ) : Extended)] :=
    .number rfl (show parseFloat "1" = .ok 1 by decide +kernel)
  have divisor : Derives .primary [⟨.number, digit, 4⟩] [.number (value : Extended)] := .number rfl read
  have five : Derives .primary [⟨.number, "5", 9⟩] [.number ((5 : ℚ) : Extended)] :=
    .number rfl (show parseFloat "5" = .ok 5 by decide +kernel)
  have tail : Derives (.tail .mul (.number ((1 : ℚ) : Extended)))
      (⟨.slash, "/", 2⟩ :: ([⟨.number, digit, 4⟩] ++ []))
      [.binary .slash "/" (.number ((1 : ℚ) : Extended)) (.number (value : Extended))] :=
    .step rfl (divisor.operand_of_primary .mul) .done
  have product : Derives Level.add.operand _ [_] := .chain (one.operand_of_primary .mul) tail
  have compared : Derives Level.and.operand _ [_] :=
    .compared product.alone (show operatorOf comparisons ⟨.neq, "!=", 6⟩ = some (.neq, "!=") from rfl)
      (five.operand_of_primary .add).alone
  exact (parsePromQL_eq_ok_iff lexed _).mpr compared.alone.expr_of_chain

theorem parsePromQL_oneByZero :
    parsePromQL "1 / 0 != 5" = .ok (.binary .neq "!=" oneByZero (.number (.finite 5))) :=
  parsePromQL_oneBy "0" 0 (by decide +kernel) (by decide +kernel)

/-- A division by zero that is not filtered: the alert `1 / 0 != 5` fires, with a value that is not a
number. -/
theorem evalNode_oneByZero :
    parsePromQL "1 / 0 != 5" = .ok (.binary .neq "!=" oneByZero (.number (.finite 5))) ∧
      FiniteContext nothing ∧
      Evaluates nothing (.binary .neq "!=" oneByZero (.number (.finite 5))) ∅
        (.ok [{ labels := ∅, value := .nan }]) ∅ := by
  refine ⟨parsePromQL_oneByZero, finiteContext_nothing, 1, fun bound enough => ?_⟩
  obtain ⟨bound, rfl⟩ := Nat.exists_eq_add_of_le' enough
  have divided : combine .slash "/" [{ labels := ∅, value := Extended.finite 1 }]
      [{ labels := ∅, value := .finite 0 }] = .ok [{ labels := ∅, value := .nan }] := by
    rw [combine, toLower_eq_ofList]
    rfl
  have unequal : combine .neq "!=" [{ labels := ∅, value := Extended.nan }]
      [{ labels := ∅, value := .finite 5 }] = .ok [{ labels := ∅, value := .nan }] := by
    rw [combine, toLower_eq_ofList]
    rfl
  have inner := evalBinary_run .slash "/" (evalNode_number nothing (eval nothing bound) ∅ (.finite 1))
    (evalNode_number nothing (eval nothing bound) ∅ (.finite 0))
  rw [divided] at inner
  have outer := evalBinary_run .neq "!=" inner
    (evalNode_number nothing (eval nothing bound) ∅ (.finite 5))
  rw [unequal] at outer
  exact outer

/-- `1 / 2`. -/
def oneByTwo : AstNode Extended :=
  .binary .slash "/" (.number (.finite 1)) (.number (.finite 2))

/-- `1 / 2 != 5` keeps the half, and the division under the comparison is clean. -/
theorem evalNode_finite_oneByTwo :
    ∃ vector, Evaluates nothing (.binary .neq "!=" oneByTwo (.number (.finite 5))) ∅ (.ok vector) ∅ ∧
      FiniteVector vector := by
  have parsed : parsePromQL "1 / 2 != 5" = .ok (.binary .neq "!=" oneByTwo (.number (.finite 5))) :=
    parsePromQL_oneBy "2" 2 (by decide +kernel) (by decide +kernel)
  have quotient : Clean nothing ∅ oneByTwo := by
    refine .binary (.number _) (fun _ _ => .number _) fun before behind _ same divides => ?_
    rw [evaluate_number] at same
    obtain rfl := Except.ok.inj same
    exact absurd divides.2.2 (by decide)
  have clean : Clean nothing ∅ (.binary .neq "!=" oneByTwo (.number (.finite 5))) := by
    refine .binary quotient (fun _ _ => .number _) fun before behind _ _ divides => ?_
    exact absurd divides.1 (by decide)
  have divided : combine .slash "/" [{ labels := ∅, value := Extended.finite 1 }]
      [{ labels := ∅, value := .finite 2 }] = .ok [{ labels := ∅, value := .finite (1 / 2) }] := by
    rw [combine, toLower_eq_ofList]
    rfl
  have unequal : combine .neq "!=" [{ labels := ∅, value := Extended.finite (1 / 2) }]
      [{ labels := ∅, value := .finite 5 }] = .ok [{ labels := ∅, value := .finite (1 / 2) }] := by
    have compared : compareFloats .neq (Extended.finite (1 / 2)) (.finite 5) = true := by decide +kernel
    rw [combine, toLower_eq_ofList]
    have kept : vectorCompare [{ labels := ∅, value := Extended.finite (1 / 2) }]
        [{ labels := ∅, value := .finite 5 }] .neq = [{ labels := ∅, value := .finite (1 / 2) }] := by
      show List.filter (fun sample : LabelSample Extended => compareFloats .neq sample.value (.finite 5)) _ = _
      exact List.filter_cons_of_pos compared
    exact congrArg Except.ok kept
  have evaluates : Evaluates nothing (.binary .neq "!=" oneByTwo (.number (.finite 5))) ∅
      (.ok [{ labels := ∅, value := .finite (1 / 2) }]) ∅ := by
    refine ⟨1, fun bound enough => ?_⟩
    obtain ⟨bound, rfl⟩ := Nat.exists_eq_add_of_le' enough
    have inner := evalBinary_run .slash "/" (evalNode_number nothing (eval nothing bound) ∅ (.finite 1))
      (evalNode_number nothing (eval nothing bound) ∅ (.finite 2))
    rw [divided] at inner
    have outer := evalBinary_run .neq "!=" inner (evalNode_number nothing (eval nothing bound) ∅ (.finite 5))
    rw [unequal] at outer
    exact outer
  exact ⟨_, evaluates, evalNode_finite parsed finiteContext_nothing clean evaluates⟩

end Instances

end Eval

end Slo

end MqConnector
