/-
This file models the evaluation of the alerting expressions, `evalNode`.

The evaluator keeps the set of the recording rules that it is expanding: a rule is put
there before its definition is evaluated, and taken out again afterwards, whatever the
outcome. `evalNode` follows the tree and is given the evaluator of definitions; `eval` ties
the knot, for so many expansions inside of each other. Running out of expansions has no
outcome here.
-/

import Mathlib.Data.Finset.Basic
import MqConnector.Expressions
import MqConnector.Extended

namespace MqConnector

namespace Slo

/-- What the evaluator uses of `float64`. -/
class Float64 (Value : Type) extends Zero Value, RatCast Value, Neg Value, Add Value, Sub Value,
    Mul Value, Div Value, LT Value, LE Value where
  decidableLT : DecidableLT Value
  decidableLE : DecidableLE Value
  /-- `==`. -/
  equal : Value → Value → Bool
  isNaN : Value → Bool
  /-- `math.IsInf` for either sign. -/
  isInf : Value → Bool
  nan : Value
  posInf : Value
  negInf : Value
  /-- The conversion to an `int64`. -/
  toInt64 : Value → Int
  /-- `strconv.ParseFloat`, where it succeeds. -/
  ofText : String → Option Value

instance Float64.instDecidableLT {Value : Type} [Float64 Value] : DecidableLT Value :=
  Float64.decidableLT

instance Float64.instDecidableLE {Value : Type} [Float64 Value] : DecidableLE Value :=
  Float64.decidableLE

/-! ### Exact values with infinities -/

section Values

/-- `underscoreOK`: an underscore stands between digits, or behind the mark of a base. -/
def underscoreOK (text : List Char) : Bool :=
  let unsigned := match text with
    | '+' :: rest => rest
    | '-' :: rest => rest
    | rest => rest
  match unsigned with
  | '0' :: mark :: rest =>
    if ['b', 'o', 'x'].contains mark.toLower then go (mark.toLower = 'x') '0' rest
    else go false '^' unsigned
  | _ => go false '^' unsigned
where
  go (hex : Bool) : Char → List Char → Bool
    | before, [] => before != '_'
    | before, char :: rest =>
      if char.isDigit || (hex && 'a' ≤ char.toLower && char.toLower ≤ 'f') then go hex '0' rest
      else if char = '_' then before = '0' && go hex '_' rest
      else before != '_' && go hex '!' rest

/-- The hexadecimal digits at the front, and what follows them. -/
def spanHex : List Char → List Nat × List Char
  | [] => ([], [])
  | first :: rest =>
    let digit := if first.isDigit then some (first.toNat - '0'.toNat)
      else if 'a' ≤ first.toLower && first.toLower ≤ 'f' then some (first.toLower.toNat - 'a'.toNat + 10)
      else none
    match digit with
    | some digit => (digit :: (spanHex rest).1, (spanHex rest).2)
    | none => ([], first :: rest)

/-- The number that the hexadecimal digits denote, with an exponent of two. -/
def parseHex (text : List Char) : Option ℚ :=
  let whole := spanHex text
  let fraction := match whole.2 with
    | '.' :: rest => spanHex rest
    | rest => ([], rest)
  if whole.1 ++ fraction.1 = [] then none
  else match fraction.2 with
    | [] => none
    | mark :: rest =>
      if mark.toLower = 'p' then (parseExponent ('e' :: rest)).map fun exponent =>
        ((whole.1 ++ fraction.1).foldl (fun number digit => 16 * number + digit) 0 : ℚ) / 16 ^ fraction.1.length *
          (2 : ℚ) ^ exponent
      else none

/-- A number without a sign, decimal or hexadecimal. -/
def parseUnsigned : List Char → Option ℚ
  | '0' :: mark :: digit :: rest =>
    if mark.toLower = 'x' then parseHex (digit :: rest) else parseDecimal ('0' :: mark :: digit :: rest)
  | text => parseDecimal text

/-- A number with or without a sign, with underscores. -/
def parseSigned (text : List Char) : Option ℚ :=
  if text.contains '_' && !underscoreOK text then none
  else match text.filter (· != '_') with
    | '-' :: rest => (parseUnsigned rest).map fun value => -value
    | '+' :: rest => parseUnsigned rest
    | rest => parseUnsigned rest

/-- `strconv.ParseFloat`, without the rounding. -/
def parseExtended (text : String) : Option Extended :=
  let word := String.ofList (text.toList.map Char.toLower)
  if ["inf", "+inf", "infinity", "+infinity"].contains word then some .posInf
  else if ["-inf", "-infinity"].contains word then some .negInf
  else if word = "nan" then some .nan
  else (parseSigned text.toList).bind fun value =>
    if |value| < 2 ^ 1024 - 2 ^ 970 then some (.finite value) else none

instance : Float64 Extended where
  decidableLT := inferInstance
  decidableLE := inferInstance
  equal := Extended.isEqual
  isNaN value := value = .nan
  isInf value := value = .posInf || value = .negInf
  nan := .nan
  posInf := .posInf
  negInf := .negInf
  toInt64
    | .finite value => Slo.toInt64 value
    | _ => -2 ^ 63
  ofText := parseExtended

end Values

namespace Eval

/-- One bucket of a histogram: its bound and the count up to it. -/
structure HistPoint (Value : Type) where
  le : Value
  count : Value

/-- `evalContext` without its set of expansions. `sort.Slice` may put points with the same bound in
any order. -/
structure Context (Value : Type) where
  current : List (LabelSample Value)
  historyAt : Option (String → Labels → Int → Option Value) := none
  recordings : Std.ExtTreeMap String (AstNode Value) := ∅
  sortPoints : List (HistPoint Value) → List (HistPoint Value)
  permutes : ∀ points, (sortPoints points).Perm points

/-- A computation of the evaluator: it reads and writes the set of the rules being expanded, and
has a result or an error. -/
abbrev Evaluation (Result : Type) := ExceptT String (StateT (Finset String) Option) Result

variable {Value : Type}

/-! ### Selectors -/

section Selectors

variable (context : Context Value) (expand : AstNode Value → Evaluation (List (LabelSample Value)))

/-- `evalSelector` once it is known whether the name is that of a recording rule, and what that one
evaluates to. -/
def select (selector : VectorSelector) (expansion : Option (Except String (List (LabelSample Value)))) :
    Except String (List (LabelSample Value)) :=
  Slo.evalSelector selector
    { current := context.current, historyAt := context.historyAt, recordings := fun _ => expansion }

/-- A selector, or the recorded expression of its name. -/
def evalSelector (selector : VectorSelector) : Evaluation (List (LabelSample Value)) := fun expanding =>
  match context.recordings[selector.name]? with
  | some definition =>
    if selector.name ∈ expanding then some (select context selector none, expanding)
    else (expand definition (insert selector.name expanding)).map fun (outcome, after) =>
      (select context selector (some outcome), after.erase selector.name)
  | none => some (select context selector none, expanding)

/-- `rate` of one selector with a range. -/
def evalRate [Float64 Value] (args : List (AstNode Value)) : Evaluation (List (LabelSample Value)) :=
  match args with
  | [.vectorSelector selector] =>
    if selector.duration = "" then throw "rate(): missing [duration] window"
    else
      match parseDurationSeconds selector.duration with
      | .error failure => throw ("rate(): bad window \"" ++ selector.duration ++ "\": " ++ failure)
      | .ok windowSeconds => do
        let current ← evalSelector context expand { selector with duration := "" }
        return current.map (rateSample Float64.toInt64 { current := context.current, historyAt := context.historyAt }
          selector.name windowSeconds)
  | [_] => throw "rate(): argument must be a vector selector with a [duration] window"
  | args => throw ("rate(): want 1 arg, got " ++ toString args.length)

end Selectors

/-! ### Operators -/

section Operators

/-- `labelsEqual`; a label that is absent reads as the empty text. -/
def labelsEqual (labels others : Labels) : Bool :=
  labels.size == others.size && matchesMatchers others labels

/-- The samples whose labels the other side has. -/
def vectorAnd (lhs rhs : List (LabelSample Value)) : List (LabelSample Value) :=
  lhs.filter fun sample => rhs.any fun other => labelsEqual sample.labels other.labels

/-- The samples of the left, and those of the right with other labels. -/
def vectorOr (lhs rhs : List (LabelSample Value)) : List (LabelSample Value) :=
  lhs ++ rhs.filter fun sample => !(lhs.any fun other => labelsEqual other.labels sample.labels)

/-- The samples whose labels the other side lacks. -/
def vectorUnless (lhs rhs : List (LabelSample Value)) : List (LabelSample Value) :=
  lhs.filter fun sample => !(rhs.any fun other => labelsEqual sample.labels other.labels)

/-- The vector is a scalar: one sample without labels. -/
def scalar? : List (LabelSample Value) → Option Value
  | [sample] => if sample.labels.isEmpty then some sample.value else none
  | _ => none

/-- The first sample of a vector with the labels of another sample. -/
def matching (vector : List (LabelSample Value)) (sample : LabelSample Value) :
    Option (LabelSample Value) :=
  vector.find? fun other => labelsEqual sample.labels other.labels

variable [Float64 Value]

/-- `compareFloats`. -/
def compareFloats (op : TokenKind) (value other : Value) : Bool :=
  match op with
  | .eq => Float64.equal value other
  | .neq => !(Float64.equal value other)
  | .gt => decide (other < value)
  | .gte => decide (other ≤ value)
  | .lt => decide (value < other)
  | .lte => decide (value ≤ other)
  | _ => false

/-- A comparison filters, by the scalar or by the sample with the same labels. -/
def vectorCompare (lhs rhs : List (LabelSample Value)) (op : TokenKind) : List (LabelSample Value) :=
  match scalar? rhs with
  | some threshold => lhs.filter fun sample => compareFloats op sample.value threshold
  | none => lhs.filter fun sample =>
      (matching rhs sample).any fun other => compareFloats op sample.value other.value

/-- Arithmetic of two numbers. -/
def arith (op : TokenKind) (value other : Value) : Except String Value :=
  match op with
  | .plus => .ok (value + other)
  | .minus => .ok (value - other)
  | .star => .ok (value * other)
  | .slash => .ok (if Float64.equal other 0 then Float64.nan else value / other)
  | _ => .error "unsupported arithmetic operator"

/-- The value is neither an infinity nor not a number. -/
def usable (outcome : Except String Value) : Option Value :=
  match outcome with
  | .ok value => if Float64.isNaN value || Float64.isInf value then none else some value
  | .error _ => none

/-- Arithmetic of a vector with a scalar, or of samples with the same labels. -/
def vectorArith (lhs rhs : List (LabelSample Value)) (op : TokenKind) :
    Except String (List (LabelSample Value)) :=
  match scalar? lhs, scalar? rhs with
  | some value, some other => (arith op value other).map fun value => [{ labels := ∅, value }]
  | none, some other => .ok (lhs.filterMap fun sample =>
      (usable (arith op sample.value other)).map fun value => { sample with value })
  | some value, none => .ok (rhs.filterMap fun sample =>
      (usable (arith op value sample.value)).map fun value => { sample with value })
  | none, none => .ok (lhs.filterMap fun sample =>
      (matching rhs sample).bind fun other =>
        (usable (arith op sample.value other.value)).map fun value => { sample with value })

/-- The kinds of `vectorCompare`. -/
def isComparison (op : TokenKind) : Bool :=
  [TokenKind.eq, .neq, .gt, .gte, .lt, .lte].contains op

/-- What `evalBinary` does with its operands. -/
def combine (op : TokenKind) (opString : String) (lhs rhs : List (LabelSample Value)) :
    Except String (List (LabelSample Value)) :=
  if opString.toLower = "and" then .ok (vectorAnd lhs rhs)
  else if opString.toLower = "or" then .ok (vectorOr lhs rhs)
  else if opString.toLower = "unless" then .ok (vectorUnless lhs rhs)
  else if isComparison op then .ok (vectorCompare lhs rhs op)
  else vectorArith lhs rhs op

/-- Both sides are evaluated, the left one first. -/
def evalBinary (op : TokenKind) (opString : String) (lhs rhs : Evaluation (List (LabelSample Value))) :
    Evaluation (List (LabelSample Value)) := do
  let left ← lhs
  let right ← rhs
  liftExcept (combine op opString left right)
where
  liftExcept (outcome : Except String (List (LabelSample Value))) :
      Evaluation (List (LabelSample Value)) :=
    ExceptT.mk (pure outcome)

end Operators

/-! ### Groups -/

section Groups

variable {Item : Type}

/-- A group of an aggregation with its items. -/
structure Group (Item : Type) where
  key : String
  labels : Labels
  items : List Item

/-- A sample is put into the group of its key; a new one comes last. -/
def addToGroup (groups : List (Group Item)) (key : String) (labels : Labels) (item : Item) :
    List (Group Item) :=
  if groups.any fun group => group.key = key then
    groups.map fun group => if group.key = key then { group with items := group.items ++ [item] } else group
  else groups ++ [{ key, labels, items := [item] }]

/-- The key of a group: its labels as texts, joined by commas. -/
def groupKey (labels : Labels) (byLabels : List String) : String × Labels :=
  (String.intercalate ","
      ((byLabels.map fun name => name ++ "=" ++ labels.getD name "").mergeSort fun key other => key ≤ other),
    byLabels.foldl (fun kept name => kept.insert name (labels.getD name "")) ∅)

/-- All labels as one text. -/
def stableKey (labels : Labels) : String :=
  labels.toList.foldl (fun built entry => built ++ entry.1 ++ "=" ++ entry.2 ++ ",") ""

variable [Float64 Value]

/-- The operations of `aggregate`. -/
inductive Aggregation
  | sum | avg | min | max | count

/-- The value of an aggregation over the values of one group. -/
def aggregateValues : Aggregation → List Value → Value
  | .sum, values => values.foldl (· + ·) 0
  | .avg, values => values.foldl (· + ·) 0 / ((values.length : ℚ) : Value)
  | .min, values => values.foldl (fun least value => if value < least then value else least) Float64.posInf
  | .max, values =>
    values.foldl (fun greatest value => if greatest < value then value else greatest) Float64.negInf
  | .count, values => ((values.length : ℚ) : Value)

/-- One sample for each group of the vector. -/
def aggregate (vector : List (LabelSample Value)) (byLabels : List String) (operation : Aggregation) :
    List (LabelSample Value) :=
  let groups := vector.foldl (fun groups sample =>
    let key := groupKey sample.labels byLabels
    addToGroup groups key.1 key.2 sample.value) []
  groups.map fun group => { labels := group.labels, value := aggregateValues operation group.items }

end Groups

/-! ### Functions -/

section Functions

variable [Float64 Value]

/-- The samples of `evalClamp` once its operands are known. -/
def clamp (isMin : Bool) (vector : List (LabelSample Value)) (limit : Value) : List (LabelSample Value) :=
  vector.map fun sample =>
    let beyond := if isMin then decide (sample.value < limit) else decide (limit < sample.value)
    { sample with value := if beyond then limit else sample.value }

/-- The bound of a bucket, as its label says it. -/
def parseLEBound (text : String) : Option Value :=
  if text = "+Inf" then some Float64.posInf else Float64.ofText text

/-- The buckets of `evalHistogramQuantile`, by their labels other than `le`. -/
def histograms (vector : List (LabelSample Value)) : List (Group (HistPoint Value)) :=
  vector.foldl (fun groups sample =>
    match (sample.labels["le"]?).bind parseLEBound with
    | none => groups
    | some le =>
      let labels := copyLabelsWithout sample.labels "le"
      addToGroup groups (stableKey labels) labels { le, count := sample.value }) []

/-- The loop over the buckets, with the bound and the count of the one before. -/
def resolve (target : Value) : Value → Value → List (HistPoint Value) → Value
  | prevLE, _, [] => prevLE
  | prevLE, prevCount, point :: rest =>
    if target ≤ point.count then
      let bucketSize := point.le - prevLE
      let bucketCount := point.count - prevCount
      if bucketCount ≤ 0 ∨ Float64.equal point.le Float64.posInf then prevLE
      else prevLE + bucketSize * ((target - prevCount) / bucketCount)
    else resolve target point.le point.count rest

/-- The quantile of one histogram, whose buckets are in order. -/
def quantileOf (quantile : Value) (points : List (HistPoint Value)) : Option Value :=
  points.getLast?.map fun last =>
    if last.count ≤ 0 then 0 else resolve (quantile * last.count) 0 0 points

/-- The samples of `evalHistogramQuantile` once its operands are known. -/
def histogramQuantile (context : Context Value) (quantile : Value) (vector : List (LabelSample Value)) :
    List (LabelSample Value) :=
  (histograms vector).filterMap fun group =>
    (quantileOf quantile (context.sortPoints group.items)).map fun value =>
      { labels := group.labels, value }

variable (args : List (Evaluation (List (LabelSample Value))))

/-- `evalSum` and `evalAggregator`. -/
def evalAggregator (name : String) (operation : Aggregation) (byLabels : List String) :
    Evaluation (List (LabelSample Value)) :=
  match args with
  | [arg] => do
    let vector ← arg
    return aggregate vector byLabels operation
  | args => throw (name ++ "(): want 1 arg, got " ++ toString args.length)

/-- `clamp_min` and `clamp_max`. -/
def evalClamp (isMin : Bool) : Evaluation (List (LabelSample Value)) :=
  match args with
  | [arg, limit] => do
    let vector ← arg
    let bound ← limit
    match scalar? bound with
    | none => throw "clamp_*(): second arg must be a scalar"
    | some limit => return clamp isMin vector limit
  | args => throw ("clamp_*(): want 2 args, got " ++ toString args.length)

/-- `histogram_quantile` over the buckets of each group. -/
def evalHistogramQuantile (context : Context Value) : Evaluation (List (LabelSample Value)) :=
  match args with
  | [arg, buckets] => do
    let quantile ← arg
    match scalar? quantile with
    | none => throw "histogram_quantile(): first arg must be a scalar quantile"
    | some quantile => do
      let vector ← buckets
      return histogramQuantile context quantile vector
  | args => throw ("histogram_quantile(): want 2 args, got " ++ toString args.length)

/-- A call by its name. -/
def evalFunc (context : Context Value) (expand : AstNode Value → Evaluation (List (LabelSample Value)))
    (name : String) (nodes : List (AstNode Value)) (byLabels : List String) :
    Evaluation (List (LabelSample Value)) :=
  match name.toLower with
  | "rate" => evalRate context expand nodes
  | "sum" => evalAggregator args "sum" .sum byLabels
  | "clamp_min" => evalClamp args true
  | "clamp_max" => evalClamp args false
  | "histogram_quantile" => evalHistogramQuantile args context
  | "avg" => evalAggregator args name .avg byLabels
  | "min" => evalAggregator args name .min byLabels
  | "max" => evalAggregator args name .max byLabels
  | "count" => evalAggregator args name .count byLabels
  | _ => throw ("unsupported function \"" ++ name ++ "\"")

end Functions

/-! ### The evaluator -/

section Nodes

variable [Float64 Value] (context : Context Value)

/-- The samples of `unaryMinusNode`. -/
def negate (vector : List (LabelSample Value)) : List (LabelSample Value) :=
  vector.map fun sample => { sample with value := -sample.value }

mutual

/-- `evalNode`, given how definitions of recording rules are evaluated. -/
def evalNode (expand : AstNode Value → Evaluation (List (LabelSample Value))) :
    AstNode Value → Evaluation (List (LabelSample Value))
  | .number value => return [{ labels := ∅, value }]
  | .unaryMinus inner => do
    let vector ← evalNode expand inner
    return negate vector
  | .vectorSelector selector => evalSelector context expand selector
  | .binary op opString lhs rhs => evalBinary op opString (evalNode expand lhs) (evalNode expand rhs)
  | .funcCall name args byLabels => evalFunc (evalArgs expand args) context expand name args byLabels

/-- The arguments of a call; the function decides which of them are evaluated. -/
def evalArgs (expand : AstNode Value → Evaluation (List (LabelSample Value))) :
    List (AstNode Value) → List (Evaluation (List (LabelSample Value)))
  | [] => []
  | arg :: rest => evalNode expand arg :: evalArgs expand rest

end

/-- `evalNode` with at most so many expansions inside of each other. -/
def eval : Nat → AstNode Value → Evaluation (List (LabelSample Value))
  | 0 => fun _ _ => none
  | bound + 1 => evalNode context (eval bound)

end Nodes

end Eval

end Slo

end MqConnector
