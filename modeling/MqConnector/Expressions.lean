/-
This file models the expressions of the alerting rules and the evaluation of selectors
and of `rate`.

Values are of any type with the operations that are used of `float64`; the look-back of
`rate` and the expansion of a recording rule are given by the context. A number is read
from decimal digits, with a point and an exponent.
-/

import Mathlib.Data.Rat.Floor
import MqConnector.Alerts

namespace MqConnector

namespace Slo

/-! ### Numbers -/

section Numbers

/-- The digits at the front, and what follows them. -/
def spanDigits : List Char → List Nat × List Char
  | [] => ([], [])
  | first :: rest =>
    if first.isDigit then
      let spanned := spanDigits rest
      ((first.toNat - '0'.toNat) :: spanned.1, spanned.2)
    else ([], first :: rest)

def ofDigits (digits : List Nat) : Nat :=
  digits.foldl (fun number digit => 10 * number + digit) 0

/-- The exponent of a number: nothing, or `e` with a sign and digits. -/
def parseExponent : List Char → Option Int
  | [] => some 0
  | mark :: rest =>
    if mark = 'e' ∨ mark = 'E' then
      let signed : Bool × List Char := match rest with
        | '-' :: digits => (true, digits)
        | '+' :: digits => (false, digits)
        | digits => (false, digits)
      match spanDigits signed.2 with
      | ([], _) => none
      | (digits, []) => some (if signed.1 then -(ofDigits digits : Int) else ofDigits digits)
      | (_, _ :: _) => none
    else none

def parseDecimal (text : List Char) : Option ℚ :=
  let whole := spanDigits text
  let fraction := match whole.2 with
    | '.' :: rest => spanDigits rest
    | rest => ([], rest)
  if whole.1 ++ fraction.1 = [] then none
  else (parseExponent fraction.2).map fun exponent =>
    let scale : Int := exponent - (fraction.1.length : Int)
    if 0 ≤ scale then (ofDigits (whole.1 ++ fraction.1) : ℚ) * 10 ^ scale.toNat
    else (ofDigits (whole.1 ++ fraction.1) : ℚ) / 10 ^ (-scale).toNat

/-- `strconv.ParseFloat` with 64 bits, without the rounding. -/
def parseFloat (text : String) : Except String ℚ :=
  match parseDecimal text.toList with
  | none => .error ("strconv.ParseFloat: parsing \"" ++ text ++ "\": invalid syntax")
  | some value =>
    if value < 2 ^ 1024 - 2 ^ 970 then .ok value
    else .error ("strconv.ParseFloat: parsing \"" ++ text ++ "\": value out of range")

/-- `int64` of an exact number; what does not fit gives the least one, as on amd64. -/
def toInt64 (value : ℚ) : Int :=
  let whole := if 0 ≤ value then value.floor else value.ceil
  if -2 ^ 63 ≤ whole ∧ whole < 2 ^ 63 then whole else -2 ^ 63

end Numbers

theorem toLower_eq_ofList (text : String) : text.toLower = String.ofList (text.toList.map Char.toLower) := by
  show text.map Char.toLower = _
  rw [← String.toList_inj, String.toList_map, String.toList_ofList]

/-! ### Expressions -/

/-- The kinds of tokens. -/
inductive TokenKind
  | eof | number | ident | string | duration
  | lParen | rParen | lBrace | rBrace | lBracket | rBracket
  | comma | plus | minus | star | slash
  | eq | neq | gt | gte | lt | lte
  | assign
  deriving DecidableEq

/-- `vectorSelectorNode`. -/
structure VectorSelector where
  name : String
  matchers : Labels := ∅
  duration : String := ""
  deriving DecidableEq

/-- An expression. -/
inductive AstNode (Value : Type)
  | number (value : Value)
  | vectorSelector (selector : VectorSelector)
  | binary (op : TokenKind) (opString : String) (lhs rhs : AstNode Value)
  | unaryMinus (inner : AstNode Value)
  | funcCall (name : String) (args : List (AstNode Value)) (byLabels : List String)

/-- `evalContext`. A recording rule that is not being expanded already evaluates to a vector or an
error. -/
structure EvalContext (Value : Type) where
  current : List (LabelSample Value)
  historyAt : Option (String → Labels → Int → Option Value)
  recordings : String → Option (Except String (List (LabelSample Value))) := fun _ => none

/-! ### Selectors -/

section Selectors

variable {Value : Type}

/-- `matchesMatchers`; a label that is absent reads as the empty text. -/
def matchesMatchers (labels matchers : Labels) : Bool :=
  matchers.toList.all fun entry => decide (labels.getD entry.1 "" = entry.2)

/-- The samples that all matchers hold of. -/
def filterByMatchers (vector : List (LabelSample Value)) (matchers : Labels) : List (LabelSample Value) :=
  if matchers.isEmpty then vector
  else vector.filter fun sample => matchesMatchers sample.labels matchers

def copyLabelsWithout (labels : Labels) (omitted : String) : Labels :=
  labels.erase omitted

/-- The samples of a selector. -/
def evalSelector (selector : VectorSelector) (context : EvalContext Value) :
    Except String (List (LabelSample Value)) :=
  match context.recordings selector.name with
  | some (.error failure) => .error ("recording-rule \"" ++ selector.name ++ "\": " ++ failure)
  | some (.ok vector) => .ok (filterByMatchers vector selector.matchers)
  | none => .ok ((context.current.filter fun sample =>
      decide (sample.labels.getD "__name__" "" = selector.name) &&
        matchesMatchers sample.labels selector.matchers).map fun sample =>
      { sample with labels := copyLabelsWithout sample.labels "__name__" })

end Selectors

/-! ### Rates -/

section Rates

variable {Value : Type} [Zero Value] [RatCast Value] [Sub Value] [Mul Value] [Div Value] [LT Value]
  [DecidableLT Value] (toInt64 : Value → Int)

/-- A duration in seconds. -/
def parseDurationSeconds (text : String) : Except String Value :=
  let split : Option (Char × List Char) := match text.toList.reverse with
    | [] => none
    | 's' :: 'm' :: number => some ('M', number.reverse)
    | unit :: number => some (unit, number.reverse)
  match split with
  | none => .error "empty duration"
  | some (unit, number) =>
    match parseFloat (String.ofList number) with
    | .error failure => .error failure
    | .ok exact =>
      let count : Value := (exact : Value)
      match unit with
      | 's' => .ok count
      | 'm' => .ok (count * ((60 : ℚ) : Value))
      | 'h' => .ok (count * ((3600 : ℚ) : Value))
      | 'd' => .ok (count * ((86400 : ℚ) : Value))
      | 'w' => .ok (count * ((7 : ℚ) : Value) * ((86400 : ℚ) : Value))
      | 'y' => .ok (count * ((365 : ℚ) : Value) * ((86400 : ℚ) : Value))
      | 'M' => .ok (count / ((1000 : ℚ) : Value))
      | _ => .error ("unknown duration unit \"" ++ unit.toString ++ "\"")

/-- The increase of one series over the window, by the second. -/
def rateSample (context : EvalContext Value) (name : String) (windowSeconds : Value)
    (sample : LabelSample Value) : LabelSample Value :=
  let previous := context.historyAt.bind fun historyAt =>
    historyAt name sample.labels (toInt64 (windowSeconds * ((1000000000 : ℚ) : Value)))
  match previous with
  | none => { sample with value := 0 }
  | some previous =>
    let delta := if sample.value - previous < 0 then 0 else sample.value - previous
    { sample with value := delta / windowSeconds }

/-- `rate` of one selector. -/
def evalRate (args : List (AstNode Value)) (context : EvalContext Value) :
    Except String (List (LabelSample Value)) :=
  match args with
  | [.vectorSelector selector] =>
    if selector.duration = "" then .error "rate(): missing [duration] window"
    else
      match parseDurationSeconds selector.duration with
      | .error failure => .error ("rate(): bad window \"" ++ selector.duration ++ "\": " ++ failure)
      | .ok windowSeconds =>
        match evalSelector { selector with duration := "" } context with
        | .error failure => .error failure
        | .ok current => .ok (current.map (rateSample toInt64 context selector.name windowSeconds))
  | [_] => .error "rate(): argument must be a vector selector with a [duration] window"
  | args => .error ("rate(): want 1 arg, got " ++ toString args.length)

end Rates

end Slo

end MqConnector
