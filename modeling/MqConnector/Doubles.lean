/-
This file models `float64` as the stages of `internal/pipeline` use it: what
`strconv.ParseFloat` reads, what `%v` prints, and how numbers are compared.

A finite number has a sign and a magnitude that the binary format holds, so that there are two
zeros. `%v` prints the shortest decimal that is read as the number, with an exponent where
it is below -4 or large; from where on it is large is left open. What is printed is read back.
-/

import MqConnector.BinaryNumbers
import MqConnector.Evaluation

namespace MqConnector

open BinaryNumbers

/-! ### Numbers -/

/-- The format of `float64`. -/
def binary64 : BinaryFormat where
  precision := 53
  least := -1074
  positive := by decide
  nonpositive := by decide

/-- A finite `float64`. -/
structure Finite64 where
  negative : Bool
  magnitude : ℚ
  nonnegative : 0 ≤ magnitude
  held : binary64.Holds magnitude
  finite : magnitude < 2 ^ 1024

/-- A `float64`. -/
inductive Double
  | finite (number : Finite64)
  | infinite (negative : Bool)
  | nan

/-- The number of a finite `float64`. -/
def Finite64.value (number : Finite64) : ℚ :=
  if number.negative then -number.magnitude else number.magnitude

/-- The number of a `float64`, without the sign of zero. -/
def Double.extended : Double → Extended
  | .finite number => .finite number.value
  | .infinite true => .negInf
  | .infinite false => .posInf
  | .nan => .nan

/-- `<` of `float64`. -/
def Double.less (first second : Double) : Bool :=
  match first.extended, second.extended with
  | .finite former, .finite latter => former < latter
  | .negInf, .finite _ | .negInf, .posInf | .finite _, .posInf => true
  | _, _ => false

/-- A magnitude with a sign, rounded; there is none where it is out of range. -/
def roundTo64 (negative : Bool) (exact : ℚ) : Option Finite64 :=
  if fits : binary64.nearest |exact| < 2 ^ 1024 then
    some
      { negative
        magnitude := binary64.nearest |exact|
        nonnegative := BinaryFormat.le_nearest BinaryFormat.holds_zero (abs_nonneg exact)
        held := BinaryFormat.holds_nearest
        finite := fits }
  else none

/-- `strconv.ParseFloat` with 64 bits, where it succeeds. -/
def parseDouble (text : String) : Option Double :=
  match Slo.parseExtended text with
  | some (.finite value) => (roundTo64 (text.toList.head? = some '-') value).map .finite
  | some .posInf => some (.infinite false)
  | some .negInf => some (.infinite true)
  | some .nan => some .nan
  | none => none

/-! ### Texts -/

/-- An exponent, with two digits at least. -/
def exponentText (exponent : ℤ) : List Char :=
  let digits := Nat.toDigits 10 exponent.natAbs
  'e' :: (if exponent < 0 then '-' else '+') :: (if digits.length < 2 then '0' :: digits else digits)

/-- `%e` of these digits. -/
def scientificText (digits : List Char) (exponent : ℤ) : List Char :=
  digits.take 1 ++ (if digits.length ≤ 1 then [] else '.' :: digits.drop 1) ++ exponentText exponent

/-- `%f` of these digits, which stand at a power of ten. -/
def plainText (digits : List Char) (power : ℤ) : List Char :=
  if 0 ≤ power then digits ++ List.replicate power.toNat '0'
  else if 0 < power + digits.length then
    digits.take (power + digits.length).toNat ++ '.' :: digits.drop (power + digits.length).toNat
  else '0' :: '.' :: (List.replicate (-(power + digits.length)).toNat '0' ++ digits)

/-- `%g` of a decimal in its shortest form; the exponent is large from this one on. -/
def decimalText (exponentFrom digits : Nat) (power : ℤ) : List Char :=
  let text := Nat.toDigits 10 digits
  let exponent := power + text.length - 1
  if exponent < -4 ∨ (exponentFrom : ℤ) ≤ exponent then scientificText text exponent else plainText text power

/-- `%v` of a magnitude. -/
def magnitudeText (exponentFrom : Nat) (magnitude : ℚ) : List Char :=
  if magnitude = 0 then ['0']
  else decimalText exponentFrom (binary64.shortest magnitude).1.toNat (binary64.shortest magnitude).2

/-- The precision that `strconv` takes for the shortest form, to decide whether it writes an exponent. -/
def shortestPrecision : Nat :=
  6

/-- `%v` of a `float64`. -/
def formatDouble (exponentFrom : Nat) : Double → String
  | .finite number =>
    String.ofList ((if number.negative then ['-'] else []) ++ magnitudeText exponentFrom number.magnitude)
  | .infinite true => "-Inf"
  | .infinite false => "+Inf"
  | .nan => "NaN"

/-! ### Digits are read back -/

section Digits

variable {text rest : List Char}

theorem spanDigits_append (digits : ∀ char ∈ text, char.isDigit = true)
    (ends : ∀ char ∈ rest.head?, char.isDigit = false) :
    Slo.spanDigits (text ++ rest) = (text.map fun char => char.toNat - '0'.toNat, rest) := by
  induction text with
  | nil =>
    cases rest with
    | nil => rfl
    | cons first rest =>
      have other := ends first rfl
      rw [List.nil_append, Slo.spanDigits, other]
      rfl
  | cons first text hypothesis =>
    obtain ⟨digit, digits⟩ := List.forall_mem_cons.mp digits
    rw [List.cons_append, Slo.spanDigits, if_pos digit, hypothesis digits]
    rfl

theorem ofDigits_map (text : List Char) :
    Slo.ofDigits (text.map fun char => char.toNat - '0'.toNat) = Nat.ofDigitChars 10 text 0 := by
  rw [Slo.ofDigits, List.foldl_map, Nat.ofDigitChars_eq_foldl]

theorem parseExponent_nil : Slo.parseExponent [] = some 0 :=
  rfl

theorem digits_toDigits (number : Nat) {char : Char} (member : char ∈ Nat.toDigits 10 number) :
    char.isDigit = true :=
  Nat.isDigit_of_mem_toDigits (by decide) (by decide) member

theorem parseExponent_exponentText (exponent : ℤ) :
    Slo.parseExponent (exponentText exponent) = some exponent := by
  -- the digits with a zero before them where there is one only
  obtain ⟨padded, shape, digits, nonempty, value⟩ : ∃ padded,
      exponentText exponent = 'e' :: (if exponent < 0 then '-' else '+') :: padded ∧
      (∀ char ∈ padded, char.isDigit = true) ∧ padded ≠ [] ∧
      Nat.ofDigitChars 10 padded 0 = exponent.natAbs := by
    refine ⟨_, rfl, ?_, ?_, ?_⟩
    · split
      · exact List.forall_mem_cons.mpr ⟨rfl, fun char => digits_toDigits _⟩
      · exact fun char => digits_toDigits _
    · split
      · exact List.cons_ne_nil _ _
      · exact Nat.toDigits_ne_nil
    · split
      · rw [Nat.ofDigitChars_cons]
        exact Nat.ofDigitChars_ten_toDigits
      · exact Nat.ofDigitChars_ten_toDigits
  have spanned := spanDigits_append digits fun char (member : char ∈ [].head?) => nomatch member
  rw [List.append_nil] at spanned
  obtain ⟨first, others, rfl⟩ := List.exists_cons_of_ne_nil nonempty
  rw [List.map_cons] at spanned
  rw [← ofDigits_map, List.map_cons] at value
  rw [shape]
  rcases lt_or_ge exponent 0 with negative | positive
  · rw [if_pos negative, Slo.parseExponent, if_pos (Or.inl rfl)]
    dsimp only
    rw [spanned]
    dsimp only
    rw [if_pos rfl, value]
    congr 1
    omega
  · rw [if_neg (not_lt.mpr positive), Slo.parseExponent, if_pos (Or.inl rfl)]
    dsimp only
    rw [spanned]
    dsimp only
    rw [if_neg Bool.false_ne_true, value]
    congr 1
    omega

theorem parseDecimal_digits (whole fraction mark : List Char) {exponent : ℤ}
    (nonempty : whole ++ fraction ≠ [])
    (wholeDigits : ∀ char ∈ whole, char.isDigit = true) (fractionDigits : ∀ char ∈ fraction, char.isDigit = true)
    (ends : ∀ char ∈ mark.head?, char.isDigit = false ∧ char ≠ '.') (read : Slo.parseExponent mark = some exponent)
    {text : List Char} (shape : text = whole ++ '.' :: fraction ++ mark ∨ fraction = [] ∧ text = whole ++ mark) :
    Slo.parseDecimal text =
      some ((Nat.ofDigitChars 10 (whole ++ fraction) 0 : ℚ) * 10 ^ (exponent - fraction.length)) := by
  have value (scale : ℤ) (digits : ℚ) : (if 0 ≤ scale then digits * 10 ^ scale.toNat else digits / 10 ^ (-scale).toNat) =
      digits * 10 ^ scale := by
    rcases lt_or_ge scale 0 with negative | positive
    · obtain ⟨depth, deep⟩ := Int.eq_ofNat_of_zero_le (show 0 ≤ -scale by omega)
      have same : scale = -(depth : ℤ) := by omega
      rw [if_neg (not_le.mpr negative), same, neg_neg, Int.toNat_natCast, zpow_neg, zpow_natCast, div_eq_mul_inv]
    · rw [if_pos positive, ← zpow_natCast, Int.toNat_of_nonneg positive]
  have finish (behind : List Nat × List Char) (spanned : behind = (fraction.map fun char => char.toNat - '0'.toNat, mark)) :
      (if whole.map (fun char => char.toNat - '0'.toNat) ++ behind.1 = [] then none
        else (Slo.parseExponent behind.2).map fun exponent =>
          if 0 ≤ exponent - (behind.1.length : ℤ) then
            (Slo.ofDigits (whole.map (fun char => char.toNat - '0'.toNat) ++ behind.1) : ℚ) *
              10 ^ (exponent - (behind.1.length : ℤ)).toNat
          else (Slo.ofDigits (whole.map (fun char => char.toNat - '0'.toNat) ++ behind.1) : ℚ) /
            10 ^ (-(exponent - (behind.1.length : ℤ))).toNat) =
        some ((Nat.ofDigitChars 10 (whole ++ fraction) 0 : ℚ) * 10 ^ (exponent - fraction.length)) := by
    rw [spanned, ← List.map_append, if_neg (fun empty => nonempty (List.map_eq_nil_iff.mp empty)), read,
      Option.map_some, value, ofDigits_map, List.length_map]
  rw [Slo.parseDecimal]
  dsimp only
  rcases shape with rfl | ⟨rfl, rfl⟩
  · rw [List.append_assoc, spanDigits_append wholeDigits (by simp)]
    exact finish _ (spanDigits_append fractionDigits fun char member => (ends char member).1)
  · rw [spanDigits_append wholeDigits fun char member => (ends char member).1]
    refine finish _ ?_
    split
    case h_1 rest point =>
      have begins : mark = '.' :: rest := point
      exact absurd rfl (ends '.' (by rw [begins]; rfl)).2
    case h_2 => rfl

end Digits

/-! ### What is printed is read back -/

section Texts

variable {digits : List Char} {power exponent : ℤ}

theorem head_exponentText (exponent : ℤ) :
    ∀ char ∈ (exponentText exponent).head?, char.isDigit = false ∧ char ≠ '.' := by
  intro char member
  obtain rfl : 'e' = char := Option.some.inj member
  decide

theorem parseDecimal_scientificText (nonempty : digits ≠ []) (known : ∀ char ∈ digits, char.isDigit = true) :
    Slo.parseDecimal (scientificText digits exponent) =
      some ((Nat.ofDigitChars 10 digits 0 : ℚ) * 10 ^ (exponent - (digits.length - 1))) := by
  have shape : scientificText digits exponent = digits.take 1 ++ '.' :: digits.drop 1 ++ exponentText exponent ∨
      digits.drop 1 = [] ∧ scientificText digits exponent = digits.take 1 ++ exponentText exponent := by
    rw [scientificText]
    rcases Nat.lt_or_ge 1 digits.length with several | one
    · rw [if_neg (by omega)]
      exact .inl rfl
    · rw [if_pos one, List.append_nil]
      exact .inr ⟨List.drop_eq_nil_of_le one, rfl⟩
  have read := parseDecimal_digits (digits.take 1) (digits.drop 1) (exponentText exponent)
    (by rwa [List.take_append_drop]) (fun char member => known char (List.mem_of_mem_take member))
    (fun char member => known char (List.mem_of_mem_drop member)) (head_exponentText exponent)
    (parseExponent_exponentText exponent) shape
  have length := List.length_pos_iff.mpr nonempty
  rw [read, List.take_append_drop, List.length_drop, Nat.cast_sub length, Nat.cast_one]

theorem parseDecimal_plainText (nonempty : digits ≠ []) (known : ∀ char ∈ digits, char.isDigit = true) :
    Slo.parseDecimal (plainText digits power) = some ((Nat.ofDigitChars 10 digits 0 : ℚ) * 10 ^ power) := by
  have zero {count : Nat} : ∀ char ∈ List.replicate count '0', char.isDigit = true := by
    intro char member
    rw [List.eq_of_mem_replicate member]
    rfl
  rw [plainText]
  split
  case isTrue nonnegative =>
    have read := parseDecimal_digits (digits ++ List.replicate power.toNat '0') [] []
      (by simp [nonempty]) (fun char member => (List.mem_append.mp member).elim (known char) (zero char)) (by simp)
      (by simp) parseExponent_nil (.inr ⟨rfl, (List.append_nil _).symm⟩)
    rw [read, List.append_nil, Nat.ofDigitChars_append, Nat.ofDigitChars_replicate_zero]
    congr 1
    push_cast
    rw [List.length_nil, Nat.cast_zero, sub_zero, zpow_zero, mul_one, mul_comm, ← zpow_natCast,
      Int.toNat_of_nonneg nonnegative]
  case isFalse negative =>
    split
    case isTrue within =>
      have read := parseDecimal_digits (digits.take (power + digits.length).toNat)
        (digits.drop (power + digits.length).toNat) []
        (by rwa [List.take_append_drop]) (fun char member => known char (List.mem_of_mem_take member))
        (fun char member => known char (List.mem_of_mem_drop member)) (by simp) parseExponent_nil
        (.inl (List.append_nil _).symm)
      rw [read, List.take_append_drop, List.length_drop]
      congr 3
      omega
    case isFalse before =>
      have read := parseDecimal_digits ['0'] (List.replicate (-(power + digits.length)).toNat '0' ++ digits) []
        (by simp) (by simp) (fun char member => (List.mem_append.mp member).elim (zero char) (known char)) (by simp)
        parseExponent_nil (.inl (List.append_nil _).symm)
      refine read.trans ?_
      rw [Nat.ofDigitChars_append, Nat.ofDigitChars_append, Nat.ofDigitChars_replicate_zero,
        List.length_append, List.length_replicate]
      congr 3
      push_cast
      omega

theorem parseDecimal_decimalText (exponentFrom digits : Nat) (power : ℤ) :
    Slo.parseDecimal (decimalText exponentFrom digits power) = some ((digits : ℚ) * 10 ^ power) := by
  have known : ∀ char ∈ Nat.toDigits 10 digits, char.isDigit = true := fun char => digits_toDigits digits
  rw [decimalText]
  split
  · rw [parseDecimal_scientificText Nat.toDigits_ne_nil known, Nat.ofDigitChars_ten_toDigits]
    congr 3
    ring
  · rw [parseDecimal_plainText Nat.toDigits_ne_nil known, Nat.ofDigitChars_ten_toDigits]

/-- The characters of numbers that are printed. -/
def numberChars : List Char :=
  ['.', 'e', '+', '-']

/-- Digits and the characters of numbers. -/
def IsNumberText (text : List Char) : Prop :=
  ∀ char ∈ text, char.isDigit = true ∨ char ∈ numberChars

theorem isNumberText_append {text more : List Char} (first : IsNumberText text) (second : IsNumberText more) :
    IsNumberText (text ++ more) :=
  fun char member => (List.mem_append.mp member).elim (first char) (second char)

theorem isNumberText_of_digits (known : ∀ char ∈ digits, char.isDigit = true) : IsNumberText digits :=
  fun char member => .inl (known char member)

theorem isNumberText_cons {char : Char} {text : List Char} (known : char.isDigit = true ∨ char ∈ numberChars)
    (rest : IsNumberText text) : IsNumberText (char :: text) :=
  List.forall_mem_cons.mpr ⟨known, rest⟩

theorem isNumberText_exponentText (exponent : ℤ) : IsNumberText (exponentText exponent) := by
  have known : IsNumberText (Nat.toDigits 10 exponent.natAbs) := isNumberText_of_digits fun char => digits_toDigits _
  refine isNumberText_cons (.inr (by decide)) (isNumberText_cons (.inr ?_) ?_)
  · split
    · decide
    · decide
  · split
    · exact isNumberText_cons (.inl rfl) known
    · exact known

theorem isNumberText_scientificText (known : IsNumberText digits) :
    IsNumberText (scientificText digits exponent) := by
  refine isNumberText_append (isNumberText_append ?_ ?_) (isNumberText_exponentText exponent)
  · exact fun char member => known char (List.mem_of_mem_take member)
  · split
    · exact fun char member => nomatch member
    · exact isNumberText_cons (.inr (by decide)) fun char member => known char (List.mem_of_mem_drop member)

theorem isNumberText_plainText (known : IsNumberText digits) : IsNumberText (plainText digits power) := by
  have zero {count : Nat} : IsNumberText (List.replicate count '0') :=
    fun char member => .inl (by rw [List.eq_of_mem_replicate member]; rfl)
  rw [plainText]
  split
  · exact isNumberText_append known zero
  · split
    · refine isNumberText_append ?_ (isNumberText_cons (.inr (by decide)) ?_)
      · exact fun char member => known char (List.mem_of_mem_take member)
      · exact fun char member => known char (List.mem_of_mem_drop member)
    · exact isNumberText_cons (.inl rfl) (isNumberText_cons (.inr (by decide)) (isNumberText_append zero known))

theorem isNumberText_decimalText (exponentFrom digits : Nat) (power : ℤ) :
    IsNumberText (decimalText exponentFrom digits power) := by
  have known : IsNumberText (Nat.toDigits 10 digits) := isNumberText_of_digits fun char => digits_toDigits digits
  rw [decimalText]
  split
  · exact isNumberText_scientificText known
  · exact isNumberText_plainText known

theorem head_decimalText (exponentFrom digits : Nat) (power : ℤ) : ∃ first rest,
    decimalText exponentFrom digits power = first :: rest ∧ first.isDigit = true := by
  obtain ⟨first, rest, shape⟩ := List.exists_cons_of_ne_nil (@Nat.toDigits_ne_nil digits 10)
  have digit : first.isDigit = true := digits_toDigits digits (by rw [shape]; exact List.mem_cons_self)
  rw [decimalText, shape]
  split
  · exact ⟨first, _, rfl, digit⟩
  · rw [plainText]
    split
    · exact ⟨first, _, rfl, digit⟩
    · split
      case isTrue within =>
        obtain ⟨more, count⟩ := Nat.exists_eq_succ_of_ne_zero (show (power + (first :: rest).length).toNat ≠ 0 by omega)
        rw [count]
        exact ⟨first, _, rfl, digit⟩
      case isFalse => exact ⟨'0', _, rfl, rfl⟩

/-! ### Numbers are read back -/

theorem toLower_of_isNumberText {text : List Char} (known : IsNumberText text) {char : Char}
    (member : char ∈ text) :
    char.toLower = char := by
  refine dif_neg fun upper => ?_
  have large : 'A'.toNat ≤ char.toNat := UInt32.le_iff_toNat_le.mp upper.1
  rcases known char member with decimal | other
  · exact absurd ((Char.isDigit_iff_toNat.mp decimal).2) (by simp at large ⊢; omega)
  · simp only [numberChars, List.mem_cons, List.not_mem_nil, or_false] at other
    rcases other with rfl | rfl | rfl | rfl
    · exact absurd upper.1 (by decide)
    · exact absurd upper.2 (by decide)
    · exact absurd upper.1 (by decide)
    · exact absurd upper.1 (by decide)

theorem not_mem_of_isNumberText {text : List Char} (known : IsNumberText text) {char : Char}
    (letter : char.isDigit = false) (other : char ∉ numberChars) : char ∉ text := by
  intro member
  rcases known char member with decimal | numeral
  · rw [letter] at decimal
    cases decimal
  · exact other numeral

theorem parseUnsigned_of_isNumberText {text : List Char} (known : IsNumberText text) :
    Slo.parseUnsigned text = Slo.parseDecimal text := by
  rw [Slo.parseUnsigned.eq_def]
  split
  case h_1 mark digit rest =>
    refine if_neg fun hexadecimal => ?_
    have member : mark ∈ '0' :: mark :: digit :: rest := by simp
    rw [toLower_of_isNumberText known member] at hexadecimal
    subst hexadecimal
    exact not_mem_of_isNumberText known rfl (by decide) member
  case h_2 => rfl

theorem parseSigned_of_isNumberText (negative : Bool) {first : Char} {rest : List Char}
    (known : IsNumberText (first :: rest)) (digit : first.isDigit = true) :
    Slo.parseSigned ((if negative then ['-'] else []) ++ first :: rest) =
      (Slo.parseDecimal (first :: rest)).map fun value => if negative then -value else value := by
  have signed : IsNumberText ((if negative then ['-'] else []) ++ first :: rest) := by
    refine isNumberText_append ?_ known
    cases negative with
    | false => exact fun char member => nomatch member
    | true => exact isNumberText_cons (.inr (by decide)) fun char member => nomatch member
  have plain : '_' ∉ (if negative then ['-'] else []) ++ first :: rest :=
    not_mem_of_isNumberText signed rfl (by decide)
  have kept : ((if negative then ['-'] else []) ++ first :: rest).filter (· != '_') =
      (if negative then ['-'] else []) ++ first :: rest := by
    refine List.filter_eq_self.mpr fun char member => bne_iff_ne.mpr ?_
    rintro rfl
    exact plain member
  rw [Slo.parseSigned, if_neg (by simp [plain]), kept]
  cases negative with
  | true =>
    show (Slo.parseUnsigned (first :: rest)).map _ = _
    rw [parseUnsigned_of_isNumberText known]
    rfl
  | false =>
    rw [if_neg Bool.false_ne_true, List.nil_append]
    split
    case h_1 same =>
      obtain rfl := (List.cons.inj same).1
      cases digit
    case h_2 same =>
      obtain rfl := (List.cons.inj same).1
      cases digit
    case h_3 =>
      rw [parseUnsigned_of_isNumberText known]
      simp

theorem parseExtended_of_isNumberText {text : List Char} (known : IsNumberText text) :
    Slo.parseExtended (String.ofList text) = (Slo.parseSigned text).bind fun value =>
      if |value| < 2 ^ 1024 - 2 ^ 970 then some (.finite value) else none := by
  have lower : text.map Char.toLower = text := by
    refine (List.map_congr_left fun char member => ?_).trans (List.map_id text)
    exact toLower_of_isNumberText known member
  have letter : 'n' ∉ text := not_mem_of_isNumberText known rfl (by decide)
  have noWord (words : List String) (spelled : ∀ word ∈ words, 'n' ∈ word.toList) :
      ¬ words.contains (String.ofList text) = true := by
    intro member
    have spelledHere := spelled _ (List.contains_iff_mem.mp member)
    rw [String.toList_ofList] at spelledHere
    exact letter spelledHere
  have number : ¬ String.ofList text = "nan" := by
    intro same
    exact noWord ["nan"] (by decide) (by rw [same]; rfl)
  rw [Slo.parseExtended, String.toList_ofList, lower, if_neg (noWord _ (by decide)), if_neg (noWord _ (by decide)), if_neg number]

theorem magnitudeText_reads (exponentFrom : Nat) (number : Finite64) : ∃ first rest decimal,
    magnitudeText exponentFrom number.magnitude = first :: rest ∧ first.isDigit = true ∧
    IsNumberText (first :: rest) ∧ Slo.parseDecimal (first :: rest) = some decimal ∧ 0 ≤ decimal ∧
    binary64.nearest decimal = number.magnitude := by
  by_cases zero : number.magnitude = 0
  · refine ⟨'0', [], 0, if_pos zero, rfl, isNumberText_of_digits (List.forall_mem_singleton.mpr rfl), ?_, le_rfl, ?_⟩
    · decide +kernel
    · rw [BinaryFormat.nearest_zero, zero]
  · obtain ⟨first, rest, shape, digit⟩ := head_decimalText exponentFrom
      (binary64.shortest number.magnitude).1.toNat (binary64.shortest number.magnitude).2
    have digits : (((binary64.shortest number.magnitude).1.toNat : ℤ) : ℚ) = (binary64.shortest number.magnitude).1 :=
      congrArg Int.cast (Int.toNat_of_nonneg (BinaryFormat.shortest_digits_nonneg number.nonnegative))
    rw [Int.cast_natCast] at digits
    refine ⟨first, rest, _, (if_neg zero).trans shape, digit, ?_, ?_, ?_, BinaryFormat.nearest_shortest number.held⟩
    · rw [← shape]
      exact isNumberText_decimalText _ _ _
    · rw [← shape, parseDecimal_decimalText, digits]
    · rw [← digits]
      exact mul_nonneg (Nat.cast_nonneg _) (BinaryFormat.ten_zpow_pos _).le

theorem roundTo64_of_nearest {number : Finite64} {exact : ℚ}
    (rounded : binary64.nearest |exact| = number.magnitude) :
    roundTo64 number.negative exact = some number := by
  rw [roundTo64, dif_pos (rounded.trans_lt number.finite)]
  obtain ⟨negative, magnitude, nonnegative, held, finite⟩ := number
  dsimp only at rounded
  subst rounded
  rfl

theorem two_zpow_top : (2 : ℚ) ^ (1024 : ℤ) = 2 ^ 1024 :=
  zpow_ofNat 2 1024

theorem two_zpow_half : (2 : ℚ) ^ ((1024 : ℤ) - binary64.precision - 1) = 2 ^ 970 := by
  have exponent : (1024 : ℤ) - binary64.precision - 1 = (970 : ℕ) := by decide
  rw [exponent, zpow_natCast]

theorem lt_of_nearest {number : Finite64} {decimal : ℚ}
    (rounded : binary64.nearest decimal = number.magnitude) :
    decimal < 2 ^ 1024 - 2 ^ 970 := by
  by_contra above
  have overflow : (2 : ℚ) ^ (1024 : ℤ) ≤ binary64.nearest decimal := by
    refine BinaryFormat.two_zpow_le_nearest (by decide) ?_
    rw [two_zpow_top, two_zpow_half]
    exact not_lt.mp above
  rw [rounded, two_zpow_top] at overflow
  exact absurd number.finite (not_lt.mpr overflow)

theorem parseDouble_formatDouble (exponentFrom : Nat) (number : Finite64) :
    parseDouble (formatDouble exponentFrom (.finite number)) = some (.finite number) := by
  obtain ⟨first, rest, decimal, shape, digit, known, read, nonnegative, rounded⟩ :=
    magnitudeText_reads exponentFrom number
  have signed : IsNumberText ((if number.negative then ['-'] else []) ++ first :: rest) := by
    refine isNumberText_append ?_ known
    split
    · exact isNumberText_cons (.inr (by decide)) fun char member => nomatch member
    · exact fun char member => nomatch member
  have size : |if number.negative then -decimal else decimal| = decimal := by
    split
    · rw [abs_neg, abs_of_nonneg nonnegative]
    · exact abs_of_nonneg nonnegative
  have head : decide (((if number.negative then ['-'] else []) ++ first :: rest).head? = some '-') = number.negative := by
    cases number.negative with
    | true => rfl
    | false =>
      refine decide_eq_false fun same => ?_
      obtain rfl := Option.some.inj same
      cases digit
  rw [formatDouble, shape, parseDouble, parseExtended_of_isNumberText signed,
    parseSigned_of_isNumberText number.negative known digit, read, Option.map_some, Option.bind_some, size,
    if_pos (lt_of_nearest rounded)]
  dsimp only
  rw [String.toList_ofList, head, roundTo64_of_nearest (by rw [size, rounded])]
  rfl

end Texts

/-! ### Integers -/

section Integers

variable {number : Finite64} {whole : ℤ}

theorem less_finite (first second : Finite64) :
    (Double.finite first).less (.finite second) = decide (first.value < second.value) :=
  rfl

/-- A decimal is rounded to the nearest double. -/
theorem roundTo64_value {negative : Bool} {exact : ℚ} (rounded : roundTo64 negative exact = some number) :
    number.value = if negative then -binary64.nearest |exact| else binary64.nearest |exact| := by
  rw [roundTo64] at rounded
  split at rounded
  · rw [← Option.some.inj rounded, Finite64.value]
  · cases rounded

theorem Finite64.magnitude_eq (number : Finite64) : number.magnitude = |number.value| := by
  rw [Finite64.value]
  split
  · rw [abs_neg, abs_of_nonneg number.nonnegative]
  · rw [abs_of_nonneg number.nonnegative]

theorem toDigits_zeros {digits : Nat} (positive : 0 < digits) (count : Nat) :
    Nat.toDigits 10 (digits * 10 ^ count) = Nat.toDigits 10 digits ++ List.replicate count '0' := by
  induction count with
  | zero => rw [pow_zero, mul_one, List.replicate_zero, List.append_nil]
  | succ count hypothesis =>
    have more : 0 < digits * 10 ^ count := by positivity
    have shifted : Nat.toDigits 10 (digits * 10 ^ count) ++ Nat.toDigits 10 0 =
        Nat.toDigits 10 (10 * (digits * 10 ^ count) + 0) :=
      Nat.toDigits_append_toDigits (by decide) more (by decide)
    rw [Nat.toDigits_zero] at shifted
    rw [List.replicate_succ', ← List.append_assoc, ← hypothesis, shifted, pow_succ]
    congr 1
    ring

/-- The text of a positive integer: its digits below the exponent's threshold, and an exponent from there on. -/
theorem magnitudeText_of_pos {exponentFrom size : Nat} (positive : 0 < size) (small : size < 2 ^ 53) :
    (size < 10 ^ exponentFrom → magnitudeText exponentFrom size = Nat.toDigits 10 size) ∧
    (10 ^ exponentFrom ≤ size → 'e' ∈ magnitudeText exponentFrom size) := by
  have nonzero : (size : ℚ) ≠ 0 := Nat.cast_ne_zero.mpr positive.ne'
  have smaller : |(size : ℤ)| < 2 ^ binary64.precision := by
    rw [Nat.abs_cast]
    exact_mod_cast small
  have power := BinaryFormat.shortest_power_nonneg (BinaryFormat.holds_intCast smaller.le)
  have exact := BinaryFormat.shortest_of_small smaller
  have digitsNonneg : 0 ≤ (binary64.shortest ((size : ℤ) : ℚ)).1 :=
    BinaryFormat.shortest_digits_nonneg (by exact_mod_cast Nat.zero_le size)
  rw [Int.cast_natCast] at power exact digitsNonneg
  rw [magnitudeText, if_neg nonzero]
  generalize binary64.shortest (size : ℚ) = decimal at power exact digitsNonneg
  obtain ⟨digits, exponent⟩ := decimal
  obtain ⟨digits, rfl⟩ := Int.eq_ofNat_of_zero_le digitsNonneg
  obtain ⟨count, rfl⟩ := Int.eq_ofNat_of_zero_le power
  dsimp only at exact ⊢
  rw [Int.toNat_natCast] at exact ⊢
  have size_eq : size = digits * 10 ^ count := by exact_mod_cast exact.symm
  have digitsPositive : 0 < digits := by
    rcases Nat.eq_zero_or_pos digits with rfl | more
    · omega
    · exact more
  have text := toDigits_zeros digitsPositive count
  rw [← size_eq] at text
  have length := congrArg List.length text
  rw [List.length_append, List.length_replicate] at length
  have first := @Nat.length_toDigits_pos 10 digits
  constructor
  · intro plain
    have exponentPositive : 0 < exponentFrom := by
      rcases Nat.eq_zero_or_pos exponentFrom with rfl | more
      · omega
      · exact more
    have short := (Nat.length_toDigits_le_iff (by decide) exponentPositive).mpr plain
    rw [decimalText, if_neg (by omega), plainText, if_pos (Int.natCast_nonneg count), Int.toNat_natCast, text]
  · intro large
    have long : exponentFrom < (Nat.toDigits 10 size).length := by
      rcases Nat.eq_zero_or_pos exponentFrom with rfl | more
      · exact Nat.length_toDigits_pos
      · by_contra short
        exact absurd ((Nat.length_toDigits_le_iff (by decide) more).mp (not_lt.mp short)) (not_lt.mpr large)
    rw [decimalText, if_pos (by omega), scientificText, exponentText]
    exact List.mem_append_right _ List.mem_cons_self

theorem magnitudeText_of_small {exponentFrom size : Nat} (small : size < 2 ^ 53)
    (plain : size < 10 ^ exponentFrom) :
    magnitudeText exponentFrom size = Nat.toDigits 10 size := by
  rcases Nat.eq_zero_or_pos size with rfl | positive
  · rw [Nat.cast_zero]
    rfl
  · exact (magnitudeText_of_pos positive small).1 plain

theorem exponent_mem_magnitudeText {exponentFrom size : Nat} (small : size < 2 ^ 53)
    (large : 10 ^ exponentFrom ≤ size) : 'e' ∈ magnitudeText exponentFrom size :=
  (magnitudeText_of_pos ((Nat.pow_pos (by decide)).trans_le large) small).2 large

/-- The digits of an integer are printed for that integer alone, and below the exponent's threshold. -/
theorem magnitudeText_eq_toDigits_iff {exponentFrom size other : Nat} (small : size < 2 ^ 53) :
    magnitudeText exponentFrom size = Nat.toDigits 10 other ↔ size = other ∧ size < 10 ^ exponentFrom := by
  rcases Nat.lt_or_ge size (10 ^ exponentFrom) with plain | large
  · rw [magnitudeText_of_small small plain, and_iff_left plain]
    refine ⟨fun same => ?_, congrArg _⟩
    have read := congrArg (fun text => Nat.ofDigitChars 10 text 0) same
    simpa using read
  · refine iff_of_false (fun same => ?_) fun both => absurd both.2 (not_lt.mpr large)
    have digit := digits_toDigits other (same ▸ exponent_mem_magnitudeText small large)
    cases digit

theorem toList_toString (whole : ℤ) :
    (toString whole).toList = (if decide (whole < 0) then ['-'] else []) ++ Nat.toDigits 10 whole.natAbs := by
  cases whole with
  | ofNat size =>
    have positive : ¬ Int.ofNat size < 0 := not_lt.mpr (Int.natCast_nonneg size)
    rw [Int.toString_eq_repr, Int.repr, Nat.toList_repr, decide_eq_false positive, if_neg Bool.false_ne_true,
      List.nil_append]
    rfl
  | negSucc size =>
    rw [Int.toString_eq_repr, Int.repr, String.toList_append, Nat.toList_repr, decide_eq_true (Int.negSucc_lt_zero size),
      if_pos rfl]
    rfl

theorem parseExtended_toString (whole : ℤ) : Slo.parseExtended (toString whole) =
    if |(whole : ℚ)| < 2 ^ 1024 - 2 ^ 970 then some (.finite whole) else none := by
  obtain ⟨first, rest, shape⟩ := List.exists_cons_of_ne_nil (@Nat.toDigits_ne_nil whole.natAbs 10)
  have known : ∀ char ∈ first :: rest, char.isDigit = true := by
    rw [← shape]
    exact fun char => digits_toDigits whole.natAbs
  have digit : first.isDigit = true := known first List.mem_cons_self
  have numeral : IsNumberText (first :: rest) := isNumberText_of_digits known
  have signed : IsNumberText ((if decide (whole < 0) then ['-'] else []) ++ first :: rest) := by
    refine isNumberText_append ?_ numeral
    split
    · exact isNumberText_cons (.inr (by decide)) fun char member => nomatch member
    · exact fun char member => nomatch member
  have read : Slo.parseDecimal (first :: rest) = some (whole.natAbs : ℚ) := by
    have plain : Slo.parseDecimal (plainText (first :: rest) 0) = _ :=
      parseDecimal_plainText (List.cons_ne_nil first rest) known
    rwa [plainText, if_pos le_rfl, Int.toNat_zero, List.replicate_zero, List.append_nil, zpow_zero, mul_one, ← shape,
      Nat.ofDigitChars_ten_toDigits, shape] at plain
  have value : (if decide (whole < 0) = true then -(whole.natAbs : ℚ) else whole.natAbs) = whole := by
    rw [Nat.cast_natAbs, Int.cast_abs]
    split
    case isTrue below =>
      have sign : (whole : ℚ) < 0 := by exact_mod_cast of_decide_eq_true below
      rw [abs_of_neg sign, neg_neg]
    case isFalse above =>
      have sign : (0 : ℚ) ≤ whole := by exact_mod_cast not_lt.mp fun negative => above (decide_eq_true negative)
      rw [abs_of_nonneg sign]
  have text : toString whole = String.ofList ((if decide (whole < 0) then ['-'] else []) ++ first :: rest) := by
    rw [← String.toList_inj, String.toList_ofList, toList_toString, shape]
  rw [text, parseExtended_of_isNumberText signed, parseSigned_of_isNumberText _ numeral digit, read, Option.map_some,
    Option.bind_some, value]

theorem parseDouble_toString (range : |(whole : ℚ)| < 2 ^ 1024 - 2 ^ 970) : ∃ read : Finite64,
    parseDouble (toString whole) = some (.finite read) ∧ read.value = binary64.nearest whole := by
  have fits : binary64.nearest |(whole : ℚ)| < 2 ^ 1024 := by
    rw [← two_zpow_top]
    refine BinaryFormat.nearest_lt (by decide) (abs_nonneg _) ?_
    rw [two_zpow_top, two_zpow_half]
    exact range
  have negative : decide ((toString whole).toList.head? = some '-') = decide (whole < 0) := by
    rw [toList_toString]
    split
    case isTrue below => rw [below]; rfl
    case isFalse above =>
      rw [Bool.eq_false_iff.mpr above, List.nil_append]
      refine decide_eq_false fun same => ?_
      have member := digits_toDigits whole.natAbs (List.mem_of_head? same)
      cases member
  obtain ⟨read, rounded⟩ : ∃ read, roundTo64 (decide (whole < 0)) (whole : ℚ) = some read := ⟨_, dif_pos fits⟩
  refine ⟨read, ?_, ?_⟩
  · rw [parseDouble, parseExtended_toString, if_pos range]
    dsimp only
    rw [negative, rounded]
    rfl
  · rw [roundTo64_value rounded]
    split
    case isTrue below =>
      have sign : (whole : ℚ) < 0 := by exact_mod_cast of_decide_eq_true below
      rw [abs_of_neg sign, BinaryFormat.nearest_neg, neg_neg]
    case isFalse above =>
      have sign : (0 : ℚ) ≤ whole := by exact_mod_cast not_lt.mp fun negative => above (decide_eq_true negative)
      rw [abs_of_nonneg sign]

theorem toList_formatDouble {exponentFrom : Nat} (value : number.value = whole) :
    (formatDouble exponentFrom (.finite number)).toList =
      (if number.negative then ['-'] else []) ++ magnitudeText exponentFrom whole.natAbs := by
  rw [formatDouble, String.toList_ofList, number.magnitude_eq, value, Nat.cast_natAbs, Int.cast_abs]

theorem Finite64.nonpos_of_negative (value : number.value = whole) (negative : number.negative = true) :
    whole ≤ 0 := by
  have below : number.value ≤ 0 := by
    rw [Finite64.value, if_pos negative]
    exact neg_nonpos.mpr number.nonnegative
  rw [value] at below
  exact_mod_cast below

theorem Finite64.nonneg_of_unsigned (value : number.value = whole) (positive : number.negative = false) :
    0 ≤ whole := by
  have above : 0 ≤ number.value := by
    rw [Finite64.value, positive]
    exact number.nonnegative
  rw [value] at above
  exact_mod_cast above

theorem exists_cons_magnitudeText (exponentFrom : Nat) (value : number.value = whole) : ∃ first rest,
    magnitudeText exponentFrom whole.natAbs = first :: rest ∧ first.isDigit = true := by
  have size : number.magnitude = (whole.natAbs : ℕ) := by
    rw [number.magnitude_eq, value, Nat.cast_natAbs, Int.cast_abs]
  obtain ⟨first, rest, _, shape, digit, -⟩ := magnitudeText_reads exponentFrom number
  rw [size] at shape
  exact ⟨first, rest, shape, digit⟩

/-- The text of a double that holds an integer is the text of an integer where the two are the same one, it is
printed without an exponent and zero without a sign. -/
theorem text_eq_toString_iff {exponentFrom : Nat} (value : number.value = whole) (small : |whole| < 2 ^ 53)
    {other : ℤ} :
    formatDouble exponentFrom (.finite number) = toString other ↔
      whole = other ∧ |whole| < 10 ^ exponentFrom ∧ (number.negative = true → whole ≠ 0) := by
  have size : |whole| = (whole.natAbs : ℤ) := Int.abs_eq_natAbs whole
  have smaller : whole.natAbs < 2 ^ 53 := by exact_mod_cast size.symm.trans_lt small
  have below : |whole| < 10 ^ exponentFrom ↔ whole.natAbs < 10 ^ exponentFrom := by
    rw [size]
    exact_mod_cast Iff.rfl
  have same := @magnitudeText_eq_toDigits_iff exponentFrom whole.natAbs other.natAbs smaller
  obtain ⟨first, rest, shape, digit⟩ := exists_cons_magnitudeText exponentFrom value
  obtain ⟨head, tail, digits⟩ := List.exists_cons_of_ne_nil (@Nat.toDigits_ne_nil other.natAbs 10)
  have known : head.isDigit = true := digits_toDigits other.natAbs (digits ▸ List.mem_cons_self)
  rw [← String.toList_inj, toList_formatDouble value, toList_toString, below]
  cases negative : number.negative with
  | true =>
    have nonpositive := Finite64.nonpos_of_negative value negative
    by_cases sign : other < 0
    · rw [decide_eq_true sign, if_pos rfl, List.append_cancel_left_eq, same]
      omega
    · rw [decide_eq_false sign, if_pos rfl, if_neg Bool.false_ne_true, List.nil_append, digits, List.singleton_append]
      refine iff_of_false (fun equal => ?_) fun ⟨equal, _, nonzero⟩ => nonzero rfl (by omega)
      rw [← (List.cons.inj equal).1] at known
      cases known
  | false =>
    have nonnegative := Finite64.nonneg_of_unsigned value negative
    by_cases sign : other < 0
    · rw [decide_eq_true sign, if_pos rfl, if_neg Bool.false_ne_true, List.nil_append, shape, List.singleton_append]
      refine iff_of_false (fun equal => ?_) fun ⟨equal, _⟩ => by omega
      rw [(List.cons.inj equal).1] at digit
      cases digit
    · have sizes : whole.natAbs = other.natAbs ↔ whole = other := by omega
      rw [decide_eq_false sign, if_neg Bool.false_ne_true, List.nil_append, List.nil_append, same, sizes,
        and_iff_left fun equal => absurd equal Bool.false_ne_true]

end Integers

end MqConnector
