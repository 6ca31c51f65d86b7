/-
This file asks whether the conditions of routing rules compare numbers as numbers.

The value of a rule is a text, and so is what it is compared with: `eq` and `neq` compare the
two texts, `gt` and `lt` the numbers that are read from them. A small integer is decoded exactly,
but `%v` prints it with an exponent from a million on, and `1e+06` is not `1000000`.
-/

import MqConnector.JsonNumbers

namespace MqConnector

open BinaryNumbers

namespace NumericLibrary

variable (library : NumericLibrary)

theorem conditions_parseFloat (text : String) : library.conditions.parseFloat text = parseDouble text :=
  rfl

theorem conditions_less (first second : Double) : library.conditions.less first second = first.less second :=
  rfl

end NumericLibrary

/-! ### Small integers are decoded exactly -/

section Decoding

variable {literal : Decimal} {number : ℤ}

theorem Decimal.magnitude_eq (literal : Decimal) : literal.magnitude = |literal.value| := by
  rw [value]
  split
  · rw [abs_neg, abs_of_nonneg literal.magnitude_nonneg]
  · rw [abs_of_nonneg literal.magnitude_nonneg]

theorem roundTo64_negative {negative : Bool} {exact : ℚ} {rounded : Finite64}
    (done : roundTo64 negative exact = some rounded) : rounded.negative = negative := by
  rw [roundTo64] at done
  split at done
  · rw [← Option.some.inj done]
  · cases done

/-- A small integer is decoded exactly. -/
theorem toDouble_of_small (text : Decimal → String) (integer : literal.value = number)
    (small : |number| < 2 ^ 53) :
    ∃ decoded : Finite64, literal.toDouble text = .ok (.finite decoded) ∧ decoded.value = number ∧
      decoded.negative = literal.negative := by
  have size : literal.magnitude = (|number| : ℤ) := by rw [literal.magnitude_eq, integer, Int.cast_abs]
  have kept : binary64.nearest |literal.magnitude| = literal.magnitude := by
    rw [abs_of_nonneg literal.magnitude_nonneg, size]
    exact BinaryFormat.nearest_of_holds (BinaryFormat.holds_intCast (by rw [abs_abs]; exact small.le))
  have fits : binary64.nearest |literal.magnitude| < 2 ^ 1024 := by
    rw [kept, size]
    have bound : ((|number| : ℤ) : ℚ) < 2 ^ 53 := by exact_mod_cast small
    exact bound.trans (pow_lt_pow_right₀ one_lt_two (by decide))
  obtain ⟨decoded, rounded⟩ : ∃ decoded, roundTo64 literal.negative literal.magnitude = some decoded :=
    ⟨_, dif_pos fits⟩
  refine ⟨decoded, ?_, ?_, roundTo64_negative rounded⟩
  · rw [Decimal.toDouble, rounded]
  · rw [roundTo64_value rounded, kept, ← integer, Decimal.value]

end Decoding

/-! ### Comparisons -/

inductive Comparison
  | eq | neq | gt | lt
  deriving DecidableEq

namespace Comparison

def text : Comparison → String
  | .eq => "eq"
  | .neq => "neq"
  | .gt => "gt"
  | .lt => "lt"

/-- What an operator says of two integers. -/
def Holds (number other : ℤ) : Comparison → Prop
  | .eq => number = other
  | .neq => number ≠ other
  | .gt => other < number
  | .lt => number < other

/-- The texts of an integer and of another one out of range stand in the order of the integers: their signs differ,
or the letters of the one with more digits come later. -/
def TextsInOrder (negative : Bool) (printed : List Char) (other : ℤ) : Prop :=
  negative = decide (other < 0) →
    if negative then Nat.toDigits 10 other.natAbs < printed else printed < Nat.toDigits 10 other.natAbs

/-- Where an operator compares the integers. Equal integers need equal texts: the first is printed without an
exponent, and zero without a sign. Numbers are compared where the second is in the range of `float64`, and texts
beyond it. -/
def Regular (literal : Decimal) (number other : ℤ) : Comparison → Prop
  | .eq | .neq => number = other → |number| < 10 ^ shortestPrecision ∧ (literal.negative = true → number ≠ 0)
  | .gt | .lt => |(other : ℚ)| < 2 ^ 1024 - 2 ^ 970 ∨
      TextsInOrder literal.negative (magnitudeText shortestPrecision number.natAbs) other

end Comparison

section Conditions

variable {library : NumericLibrary} {decoded : Finite64} {number other : ℤ}

theorem ordered_iff (value : decoded.value = number) (small : |number| < 2 ^ 53)
    (range : |(other : ℚ)| < 2 ^ 1024 - 2 ^ 970) :
    (library.conditions.ordered (toString other) (formatDouble shortestPrecision (.finite decoded)) = true ↔
      other < number) ∧
    (library.conditions.ordered (formatDouble shortestPrecision (.finite decoded)) (toString other) = true ↔
      number < other) := by
  obtain ⟨read, parsed, nearest⟩ := parseDouble_toString range
  rw [ConditionLibrary.ordered, ConditionLibrary.ordered, library.conditions_parseFloat, library.conditions_parseFloat,
    parseDouble_formatDouble, parsed]
  dsimp only
  rw [library.conditions_less, library.conditions_less, less_finite, less_finite, value, nearest, decide_eq_true_iff,
    decide_eq_true_iff]
  exact ⟨BinaryFormat.nearest_lt_iff small, BinaryFormat.lt_nearest_iff small⟩

theorem ordered_of_unread {text : String} (unread : parseDouble text = none) (other : String) :
    (library.conditions.ordered text other = true ↔ text < other) ∧
    (library.conditions.ordered other text = true ↔ other < text) := by
  rw [ConditionLibrary.ordered, ConditionLibrary.ordered, library.conditions_parseFloat text, unread]
  constructor
  · exact decide_eq_true_iff
  · cases library.conditions.parseFloat other <;> exact decide_eq_true_iff

theorem small_le_range : (2 : ℚ) ^ 53 ≤ 2 ^ 1024 - 2 ^ 970 := by
  have first : (2 : ℚ) ^ 53 ≤ 2 ^ 970 := pow_le_pow_right₀ one_le_two (by decide)
  have second : (2 : ℚ) ^ 971 ≤ 2 ^ 1024 := pow_le_pow_right₀ one_le_two (by decide)
  rw [pow_succ, mul_two] at second
  exact first.trans (le_sub_iff_add_le.mpr second)

theorem not_small_of_range (range : ¬ |(other : ℚ)| < 2 ^ 1024 - 2 ^ 970) : 2 ^ 53 ≤ |other| := by
  have above : (2 : ℚ) ^ 53 ≤ |(other : ℚ)| := small_le_range.trans (not_lt.mp range)
  exact_mod_cast above

/-- The order of two texts of numbers: that of the signs, and of the digits where both have one sign. -/
theorem signed_lt_iff {first second : Bool} {head other : Char} {tail rest : List Char}
    (digit : head.isDigit = true)
    (known : other.isDigit = true) :
    (if first then ['-'] else []) ++ head :: tail < (if second then ['-'] else []) ++ other :: rest ↔
      if first = second then head :: tail < other :: rest else first = true := by
  have minus {char : Char} (digit : char.isDigit = true) : '-' < char := by
    rw [Char.isDigit, Bool.and_eq_true, decide_eq_true_iff, decide_eq_true_iff] at digit
    exact lt_of_lt_of_le (by decide : '-' < '0') digit.1
  cases first <;> cases second
  · exact Iff.rfl
  · refine iff_of_false (fun less => ?_) Bool.false_ne_true
    rcases List.cons_lt_cons_iff.mp less with below | ⟨same, -⟩
    · exact absurd below (lt_asymm (minus digit))
    · exact absurd same (minus digit).ne'
  · exact iff_of_true (List.cons_lt_cons_iff.mpr (.inl (minus known))) rfl
  · exact List.cons_lt_cons_iff.trans ⟨fun less => (less.resolve_left (lt_irrefl _)).2, fun less => .inr ⟨rfl, less⟩⟩

/-- Beyond the range the texts are compared, and both operators are right where these stand in the integers' order. -/
theorem texts_iff (value : decoded.value = number) (small : |number| < 2 ^ 53)
    (range : ¬ |(other : ℚ)| < 2 ^ 1024 - 2 ^ 970) :
    ((toString other < formatDouble shortestPrecision (.finite decoded) ↔ other < number) ↔
      Comparison.TextsInOrder decoded.negative (magnitudeText shortestPrecision number.natAbs) other) ∧
    ((formatDouble shortestPrecision (.finite decoded) < toString other ↔ number < other) ↔
      Comparison.TextsInOrder decoded.negative (magnitudeText shortestPrecision number.natAbs) other) := by
  have large : 2 ^ 53 ≤ (other.natAbs : ℤ) := (not_small_of_range range).trans_eq (Int.abs_eq_natAbs other)
  have bounds := abs_lt.mp small
  have smaller : number.natAbs < 2 ^ 53 := by omega
  have different : magnitudeText shortestPrecision number.natAbs ≠ Nat.toDigits 10 other.natAbs := by
    intro same
    have sizes := ((magnitudeText_eq_toDigits_iff smaller).mp same).1
    omega
  obtain ⟨head, tail, shape, digit⟩ := exists_cons_magnitudeText shortestPrecision value
  obtain ⟨first, rest, digits⟩ := List.exists_cons_of_ne_nil (@Nat.toDigits_ne_nil other.natAbs 10)
  have known : first.isDigit = true := digits_toDigits other.natAbs (digits ▸ List.mem_cons_self)
  have below : number < other ↔ decide (other < 0) = false := by
    rw [decide_eq_false_iff_not]
    omega
  have above : other < number ↔ decide (other < 0) = true := by
    rw [decide_eq_true_iff]
    omega
  rw [Comparison.TextsInOrder, String.lt_iff, String.lt_iff, toList_formatDouble value, toList_toString, below, above]
  rw [shape, digits] at different ⊢
  rw [signed_lt_iff known digit, signed_lt_iff digit known]
  generalize decide (other < 0) = sign
  generalize decoded.negative = negative
  have total := lt_or_gt_of_ne different
  have asymmetric : head :: tail < first :: rest → ¬ first :: rest < head :: tail := lt_asymm
  cases negative <;> cases sign <;> simp <;> grind

/-- A condition compares an integer as such exactly where the comparison is regular. -/
theorem evaluateCondition_iff (comparison : Comparison) {literal : Decimal} (value : decoded.value = number)
    (sign : decoded.negative = literal.negative) (small : |number| < 2 ^ 53) :
    (library.conditions.evaluateCondition (.number (.finite decoded)) comparison.text (toString other) = true ↔
      comparison.Holds number other) ↔ comparison.Regular literal number other := by
  have printed : (Value.number (Double.finite decoded)).sprintV library.conditions.formatNumber =
      formatDouble shortestPrecision (.finite decoded) := rfl
  have same : _ ↔ number = other ∧ |number| < 10 ^ shortestPrecision ∧ (decoded.negative = true → number ≠ 0) :=
    text_eq_toString_iff value small
  rw [sign] at same
  have unread (range : ¬ |(other : ℚ)| < 2 ^ 1024 - 2 ^ 970) : parseDouble (toString other) = none := by
    rw [parseDouble, parseExtended_toString, if_neg range]
  rw [ConditionLibrary.evaluateCondition.eq_def, printed]
  cases comparison with
  | eq =>
    have texts : Comparison.Holds number other .eq = (number = other) := rfl
    have compared := decide_eq_true_iff.trans same
    exact (iff_congr compared (Iff.of_eq texts)).trans and_iff_left_iff_imp
  | neq =>
    have texts : Comparison.Holds number other .neq = ¬ number = other := rfl
    have compared := decide_eq_true_iff.trans same.not
    exact (iff_congr compared (Iff.of_eq texts)).trans (not_iff_not.trans and_iff_left_iff_imp)
  | gt =>
    by_cases range : |(other : ℚ)| < 2 ^ 1024 - 2 ^ 970
    · exact iff_of_true (ordered_iff value small range).1 (.inl range)
    · rw [Comparison.Regular, or_iff_right range, ← sign, ← (texts_iff value small range).1]
      exact iff_congr (ordered_of_unread (unread range) _).1 Iff.rfl
  | lt =>
    by_cases range : |(other : ℚ)| < 2 ^ 1024 - 2 ^ 970
    · exact iff_of_true (ordered_iff value small range).2 (.inl range)
    · rw [Comparison.Regular, or_iff_right range, ← sign, ← (texts_iff value small range).2]
      exact iff_congr (ordered_of_unread (unread range) _).2 Iff.rfl

end Conditions

/-! ### Rules -/

section Rules

variable {library : NumericLibrary} {message : Bytes} {source : DataMap Decimal} {data : DataMap Double}

theorem decode_of_decodeStructured (parsed : library.parseJSON message = .ok (some source))
    (decoded : library.conditions.decodeStructured message .json = .ok (some data)) : library.decode source = .ok data := by
  have unmarshal : library.conditions.unmarshalJSON message = (library.decode source).map some := by
    show library.unmarshalJSON message = _
    rw [NumericLibrary.unmarshalJSON, parsed]
  rw [StructuredLibrary.decodeStructured, unmarshal] at decoded
  cases done : library.decode source with
  | error err =>
    rw [done] at decoded
    cases decoded
  | ok others =>
    rw [done] at decoded
    exact congrArg Except.ok (Option.some.inj (Except.ok.inj decoded))

/-- A rule selects by the value at its path. -/
theorem selects_iff {rule : RoutingRule} {value : Value Double}
    (found : getNestedValue rule.conditionPath data = .ok value) : library.conditions.Selects data rule ↔
      library.conditions.evaluateCondition value rule.conditionOperator rule.conditionValue = true := by
  constructor
  · rintro ⟨other, here, holds⟩
    obtain rfl := Except.ok.inj (found.symm.trans here)
    exact holds
  · exact fun holds => ⟨value, found, holds⟩

/-- A rule on a small integer compares integers with `eq` and `neq` where equal integers are below a million and zero
has no sign, and with `gt` and `lt` where the integer of the rule is in the range of `float64` or the texts stand in
the order of the integers; and nowhere else. -/
theorem conditions_compare_integers (parsed : library.parseJSON message = .ok (some source))
    (decoded : library.conditions.decodeStructured message .json = .ok (some data)) {rule : RoutingRule}
    {comparison : Comparison} (operator : rule.conditionOperator = comparison.text) {literal : Decimal}
    (held : getNestedValue rule.conditionPath source = .ok (.number literal)) {number : ℤ}
    (integer : literal.value = number) (small : |number| < 2 ^ 53) {other : ℤ}
    (text : rule.conditionValue = toString other) :
    (library.conditions.Selects data rule ↔ comparison.Holds number other) ↔
      comparison.Regular literal number other := by
  obtain ⟨read, converted, value, sign⟩ := toDouble_of_small library.literalText integer small
  have found : getNestedValue rule.conditionPath data = .ok (.number (.finite read)) := by
    have alike := Value.getNestedValue_of_fieldsRel rule.conditionPath
      (Value.fieldsRel_of_convert (decode_of_decodeStructured parsed decoded))
    rw [held] at alike
    cases found : getNestedValue rule.conditionPath data with
    | error err =>
      rw [found] at alike
      cases alike
    | ok value =>
      rw [found] at alike
      cases alike with
      | some same =>
        cases value with
        | number other => exact congrArg (fun number => Except.ok (Value.number number)) (Except.ok.inj (same.symm.trans converted))
        | null | bool | string | array | object => exact same.elim
  rw [selects_iff found, operator, text]
  exact evaluateCondition_iff comparison value sign small

end Rules

/-! ### Runs on two documents -/

/-- Rules on small integers compare integers, whatever integer the rule has. -/
def ComparesIntegers (library : NumericLibrary) : Prop :=
  ∀ (message : Bytes) (source : DataMap Decimal) (data : DataMap Double) (rule : RoutingRule) (comparison : Comparison)
    (literal : Decimal) (number other : ℤ), library.parseJSON message = .ok (some source) →
    library.conditions.decodeStructured message .json = .ok (some data) →
    rule.conditionOperator = comparison.text → getNestedValue rule.conditionPath source = .ok (.number literal) →
    literal.value = number → |number| < 2 ^ 53 → rule.conditionValue = toString other →
    (library.conditions.Selects data rule ↔ comparison.Holds number other)

/-- A library that reads one document, with one number. -/
def integerLibrary (written : Bytes) (literal : Decimal) : NumericLibrary where
  parseJSON message :=
    if message = written then .ok (some [("n", .number literal)]) else .error "unexpected end of JSON input"
  printJSON _ := written
  literalText _ := String.ofList (Nat.toDigits 10 literal.digits)
  newMapXml _ := .error "EOF"
  mapXml _ := .error "xml: unsupported value"
  readXml _ := .error "EOF"
  writeXml _ := .error "xml: unsupported value"
  quote text := "\"" ++ text ++ "\""
  compileRegex _ := .error "error parsing regexp"
  matchString _ _ := none

/-- A rule on the number of this document. -/
def integerRule (comparison : Comparison) (other : ℤ) : RoutingRule where
  tenantID := "t"
  pipelineID := "p"
  conditionPath := "n"
  conditionOperator := comparison.text
  conditionValue := toString other
  destinationID := "d"

/-- The documents `{"n":5}` and `{"n":1000000}`. -/
def writtenFive : Bytes := [123, 34, 110, 34, 58, 53, 125]

def writtenMillion : Bytes := [123, 34, 110, 34, 58, 49, 48, 48, 48, 48, 48, 48, 125]

section Documents

variable {written : Bytes} {literal : Decimal} {number : ℤ}

theorem parsed_integer : (integerLibrary written literal).parseJSON written =
    .ok (some [("n", .number literal)]) :=
  if_pos rfl

theorem held_integer {comparison : Comparison} {other : ℤ} {Number : Type} (value : Value Number) :
    getNestedValue (integerRule comparison other).conditionPath [("n", value)] = .ok value := by
  have keys : keysOf "n" = ["n"] := by decide
  show getKeys "n" (keysOf "n") (.object [("n", value)]) = _
  rw [keys]
  rfl

theorem decoded_integer (integer : literal.value = number) (small : |number| < 2 ^ 53) : ∃ decoded : Finite64,
    (integerLibrary written literal).conditions.decodeStructured written .json =
      .ok (some [("n", .number (.finite decoded))]) ∧
    decoded.value = number ∧ decoded.negative = literal.negative := by
  obtain ⟨decoded, converted, value, sign⟩ :=
    toDouble_of_small (integerLibrary written literal).literalText integer small
  refine ⟨decoded, ?_, value, sign⟩
  have unmarshal : (integerLibrary written literal).conditions.unmarshalJSON written =
      .ok (some [("n", .number (.finite decoded))]) := by
    show (integerLibrary written literal).unmarshalJSON written = _
    rw [NumericLibrary.unmarshalJSON, parsed_integer]
    dsimp only
    rw [NumericLibrary.decode, Value.convertFields, Value.convert, converted]
    rfl
  rw [StructuredLibrary.decodeStructured, unmarshal]

end Documents

theorem in_range_of_small {other : ℤ} (small : |other| < 2 ^ 53) : |(other : ℚ)| < 2 ^ 1024 - 2 ^ 970 := by
  have below : |(other : ℚ)| < 2 ^ 53 := by exact_mod_cast small
  exact below.trans_le small_le_range

theorem value_five : (⟨false, 5, 0⟩ : Decimal).value = (5 : ℤ) := by
  norm_num [Decimal.value, Decimal.magnitude]

/-- Five is found less than seven. -/
theorem conditions_compare_integers_five : ∃ data,
    (integerLibrary writtenFive ⟨false, 5, 0⟩).conditions.decodeStructured writtenFive .json = .ok (some data) ∧
    (integerLibrary writtenFive ⟨false, 5, 0⟩).conditions.Selects data (integerRule .lt 7) := by
  obtain ⟨decoded, done, -⟩ := decoded_integer value_five (by decide)
  have regular : Comparison.lt.Regular ⟨false, 5, 0⟩ 5 7 := .inl (in_range_of_small (by decide))
  have operator : (integerRule .lt 7).conditionOperator = Comparison.lt.text := rfl
  have compares : _ ↔ Comparison.lt.Holds 5 7 :=
    (conditions_compare_integers parsed_integer done operator (held_integer _) value_five (by decide) rfl).mpr regular
  exact ⟨_, done, compares.mpr (show (5 : ℤ) < 7 by decide)⟩

/-- A million is not found equal to a million. -/
theorem conditions_compare_texts :
    ¬ ComparesIntegers (integerLibrary writtenMillion ⟨false, 1000000, 0⟩) := by
  intro compares
  have million : (⟨false, 1000000, 0⟩ : Decimal).value = (1000000 : ℤ) := by norm_num [Decimal.value, Decimal.magnitude]
  obtain ⟨decoded, done, value, -⟩ := @decoded_integer writtenMillion _ _ million (by decide)
  have selects := (compares writtenMillion _ _ (integerRule .eq 1000000) .eq ⟨false, 1000000, 0⟩ 1000000 1000000
    parsed_integer done rfl (held_integer _) million (by decide) rfl).mpr rfl
  rw [selects_iff (held_integer _)] at selects
  have same : formatDouble shortestPrecision (.finite decoded) = toString (1000000 : ℤ) := of_decide_eq_true selects
  exact absurd ((text_eq_toString_iff value (by decide)).mp same).2.1 (by decide)

end MqConnector
