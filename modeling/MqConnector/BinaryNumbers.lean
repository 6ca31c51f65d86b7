/-
This file develops the numbers that a binary format holds: the rationals with a significand of
so many bits and an exponent that is not below a least one. A rational is rounded to the
nearest of them, where two are near to the one with the even significand.
-/

import Mathlib.Data.Int.Log
import Mathlib.Data.Rat.Floor

namespace MqConnector

namespace BinaryNumbers

/-! ### Rounding to integers -/

/-- The nearest integer, the even one of two. -/
def roundEven (number : ℚ) : ℤ :=
  if number - ⌊number⌋ < 1 / 2 ∨ number - ⌊number⌋ = 1 / 2 ∧ 2 ∣ ⌊number⌋ then ⌊number⌋ else ⌊number⌋ + 1

section Rounding

variable {number : ℚ} {whole : ℤ}

theorem le_roundEven (below : (whole : ℚ) ≤ number) : whole ≤ roundEven number := by
  have least : whole ≤ ⌊number⌋ := Int.le_floor.mpr below
  rw [roundEven]
  split
  · exact least
  · omega

theorem roundEven_le (above : number ≤ whole) : roundEven number ≤ whole := by
  rw [roundEven]
  split
  case isTrue =>
    have most : (⌊number⌋ : ℚ) ≤ whole := (Int.floor_le number).trans above
    exact_mod_cast most
  case isFalse far =>
    rw [not_or, not_lt] at far
    have most : (⌊number⌋ : ℚ) < whole := by linarith [far.1]
    exact Int.add_one_le_iff.mpr (by exact_mod_cast most)

theorem roundEven_le_of_lt (below : number < whole + 1 / 2) : roundEven number ≤ whole := by
  rw [roundEven]
  split
  case isTrue =>
    have most : (⌊number⌋ : ℚ) < whole + 1 := by linarith [Int.floor_le number]
    exact Int.lt_add_one_iff.mp (by exact_mod_cast most)
  case isFalse far =>
    rw [not_or, not_lt] at far
    have most : (⌊number⌋ : ℚ) < whole := by linarith [far.1]
    exact Int.add_one_le_iff.mpr (by exact_mod_cast most)

theorem lt_roundEven_of_half (odd : ¬ 2 ∣ whole) (above : whole + 1 / 2 ≤ number) :
    whole < roundEven number := by
  have least : whole ≤ ⌊number⌋ := Int.le_floor.mpr (by linarith)
  rcases least.lt_or_eq with more | same
  · exact more.trans_le (le_roundEven (Int.floor_le number))
  · rw [roundEven, ← same, if_neg]
    · exact lt_add_one whole
    · rintro (near | ⟨-, even⟩)
      · linarith
      · exact odd even

@[simp]
theorem roundEven_intCast (whole : ℤ) : roundEven whole = whole :=
  le_antisymm (roundEven_le le_rfl) (le_roundEven le_rfl)

theorem roundEven_neg (number : ℚ) : roundEven (-number) = -roundEven number := by
  rcases eq_or_ne number ⌊number⌋ with whole | fraction
  · rw [whole, ← Int.cast_neg, roundEven_intCast, roundEven_intCast]
  · have below := lt_of_le_of_ne (Int.floor_le number) fraction.symm
    have above := Int.lt_floor_add_one number
    have floor : ⌊-number⌋ = -⌊number⌋ - 1 := by
      refine Int.floor_eq_iff.mpr ⟨?_, ?_⟩
      · push_cast
        linarith
      · push_cast
        linarith
    rw [roundEven, roundEven, floor]
    push_cast
    -- the fractions add up to one, and one of the floors is even
    split
    case isTrue near =>
      rw [if_neg]
      · omega
      · rintro (nearer | ⟨half, even⟩)
        · rcases near with near | ⟨half, even⟩
          · linarith
          · linarith
        · rcases near with near | ⟨-, odd⟩
          · linarith
          · omega
    case isFalse far =>
      rw [not_or, not_lt] at far
      rw [if_pos]
      · omega
      · rcases far.1.lt_or_eq with farther | half
        · exact .inl (by linarith)
        · have odd : ¬ 2 ∣ -⌊number⌋ - 1 := fun even => far.2 ⟨half.symm, even⟩
          exact .inr ⟨by linarith, by omega⟩

end Rounding

/-! ### Formats -/

/-- A binary format: the bits of its significands, and its least exponent. -/
structure BinaryFormat where
  precision : Nat
  least : ℤ
  positive : 0 < precision
  nonpositive : least ≤ 0

namespace BinaryFormat

variable (format : BinaryFormat)

/-- A number of the format. -/
def Holds (number : ℚ) : Prop :=
  ∃ significand exponent : ℤ, format.least ≤ exponent ∧ |significand| < 2 ^ format.precision ∧
    number = significand * 2 ^ exponent

/-- The exponent to which a number is rounded. -/
def exponentOf (number : ℚ) : ℤ :=
  max format.least (Int.log 2 |number| + 1 - format.precision)

/-- The nearest number of the format, where two are near the one with the even significand. -/
def nearest (number : ℚ) : ℚ :=
  roundEven (number / 2 ^ format.exponentOf number) * 2 ^ format.exponentOf number

variable {format} {number held : ℚ}

theorem two_zpow_pos (exponent : ℤ) : (0 : ℚ) < 2 ^ exponent :=
  zpow_pos two_pos exponent

/-- Multiples of a power of two that are small enough are held. -/
theorem holds_of_le {significand exponent : ℤ} (least : format.least ≤ exponent)
    (small : |significand| ≤ 2 ^ format.precision) : format.Holds (significand * 2 ^ exponent) := by
  rcases small.lt_or_eq with smaller | most
  · exact ⟨significand, exponent, least, smaller, rfl⟩
  · obtain ⟨bits, precision⟩ := Nat.exists_eq_succ_of_ne_zero format.positive.ne'
    rw [precision, pow_succ] at most
    have even : (2 : ℤ) ∣ significand := (dvd_abs 2 significand).mp ⟨2 ^ bits, by rw [most]; ring⟩
    obtain ⟨half, rfl⟩ := even
    refine ⟨half, exponent + 1, by omega, ?_, ?_⟩
    · rw [abs_mul, abs_two, mul_comm] at most
      have halved : |half| = 2 ^ bits := mul_right_cancel₀ two_ne_zero most
      rw [halved, precision]
      exact pow_lt_pow_right₀ one_lt_two (Nat.lt_succ_self bits)
    · rw [zpow_add_one₀ two_ne_zero]
      push_cast
      ring

/-- Small integers are held. -/
theorem holds_intCast {whole : ℤ} (small : |whole| ≤ 2 ^ format.precision) : format.Holds whole := by
  have held := holds_of_le format.nonpositive small
  rwa [zpow_zero, mul_one] at held

theorem holds_zero : format.Holds 0 := by
  have held : format.Holds ((0 : ℤ) : ℚ) := holds_intCast (by simp)
  rwa [Int.cast_zero] at held

@[simp]
theorem nearest_zero : format.nearest 0 = 0 := by
  have whole : roundEven ((0 : ℤ) : ℚ) = 0 := roundEven_intCast 0
  rw [Int.cast_zero] at whole
  rw [nearest, zero_div, whole, Int.cast_zero, zero_mul]

/-- The nearest number is held. -/
theorem holds_nearest : format.Holds (format.nearest number) := by
  refine holds_of_le (le_max_left _ _) (abs_le.mpr ?_)
  have step := two_zpow_pos (format.exponentOf number)
  have fits : Int.log 2 |number| + 1 ≤ format.precision + format.exponentOf number := by
    have large : Int.log 2 |number| + 1 - format.precision ≤ format.exponentOf number := le_max_right _ _
    omega
  have bound : |number| ≤ 2 ^ format.precision * 2 ^ format.exponentOf number :=
    calc |number| ≤ 2 ^ (Int.log 2 |number| + 1) := (Int.lt_zpow_succ_log_self one_lt_two |number|).le
      _ ≤ 2 ^ (format.precision + format.exponentOf number : ℤ) := zpow_le_zpow_right₀ one_le_two fits
      _ = 2 ^ format.precision * 2 ^ format.exponentOf number := by
        rw [zpow_add₀ two_ne_zero, zpow_natCast]
  obtain ⟨lower, upper⟩ := abs_le.mp bound
  constructor
  · refine le_roundEven ((le_div_iff₀ step).mpr ?_)
    push_cast
    linarith
  · refine roundEven_le ((div_le_iff₀ step).mpr ?_)
    push_cast
    exact upper

theorem exists_multiple_between (holds : format.Holds held) (nonzero : number ≠ 0) : ∃ whole : ℤ,
    (held ≤ number → held ≤ whole * 2 ^ format.exponentOf number ∧ whole * 2 ^ format.exponentOf number ≤ number) ∧
    (number ≤ held → number ≤ whole * 2 ^ format.exponentOf number ∧ whole * 2 ^ format.exponentOf number ≤ held) := by
  obtain ⟨significand, exponent, least, small, rfl⟩ := holds
  rcases le_or_gt (format.exponentOf number) exponent with multiple | finer
  · -- the number itself is a multiple
    obtain ⟨more, rfl⟩ := Int.le.dest multiple
    have same : ((significand * 2 ^ more : ℤ) : ℚ) * 2 ^ format.exponentOf number =
        significand * 2 ^ (format.exponentOf number + more) := by
      rw [zpow_add₀ two_ne_zero, zpow_natCast]
      push_cast
      ring
    exact ⟨significand * 2 ^ more, fun below => ⟨same.ge, same.trans_le below⟩,
      fun above => ⟨above.trans_eq same.symm, same.le⟩⟩
  · -- the other number is a power of two away from zero, and the number of the format is not
    have normal : format.exponentOf number = Int.log 2 |number| + 1 - format.precision := by
      rcases max_choice format.least (Int.log 2 |number| + 1 - format.precision) with same | same
      · rw [exponentOf, same] at finer
        omega
      · exact same
    obtain ⟨bits, precision⟩ := Nat.exists_eq_succ_of_ne_zero format.positive.ne'
    have power : (2 : ℚ) ^ bits * 2 ^ format.exponentOf number = 2 ^ Int.log 2 |number| := by
      rw [← zpow_natCast, ← zpow_add₀ two_ne_zero]
      congr 1
      push_cast [precision] at normal
      omega
    have far : (2 : ℚ) ^ bits * 2 ^ format.exponentOf number ≤ |number| :=
      power.trans_le (Int.zpow_log_le_self one_lt_two (abs_pos.mpr nonzero))
    have near : |(significand : ℚ) * 2 ^ exponent| < 2 ^ bits * 2 ^ format.exponentOf number := by
      have significandSmall : |(significand : ℚ)| < 2 ^ (bits + 1) := by
        rw [precision] at small
        exact_mod_cast small
      calc |(significand : ℚ) * 2 ^ exponent| = |(significand : ℚ)| * 2 ^ exponent := by
            rw [abs_mul, abs_of_pos (two_zpow_pos exponent)]
        _ < 2 ^ (bits + 1) * 2 ^ exponent := mul_lt_mul_of_pos_right significandSmall (two_zpow_pos exponent)
        _ = 2 ^ bits * 2 ^ (exponent + 1) := by
            rw [pow_succ, zpow_add_one₀ two_ne_zero]
            ring
        _ ≤ 2 ^ bits * 2 ^ format.exponentOf number :=
            mul_le_mul_of_nonneg_left (zpow_le_zpow_right₀ one_le_two (by omega)) (by positivity)
    obtain ⟨lower, upper⟩ := abs_lt.mp near
    rcases abs_choice number with positive | negative
    · rw [positive] at far
      refine ⟨2 ^ bits, fun _ => ⟨?_, ?_⟩, fun above => absurd (far.trans above) (not_le.mpr upper)⟩
      · push_cast
        exact upper.le
      · push_cast
        exact far
    · rw [negative] at far
      refine ⟨-2 ^ bits, fun below => absurd (lower.trans_le below) (by linarith), fun _ => ⟨?_, ?_⟩⟩
      · push_cast
        linarith
      · push_cast
        linarith

/-- Rounding does not pass a number that is held. -/
theorem le_nearest (holds : format.Holds held) (below : held ≤ number) : held ≤ format.nearest number := by
  by_cases nonzero : number = 0
  · rw [nonzero, nearest_zero, ← nonzero]
    exact below
  · obtain ⟨whole, between, -⟩ := exists_multiple_between holds nonzero
    have step := two_zpow_pos (format.exponentOf number)
    have rounded : (whole : ℚ) ≤ roundEven (number / 2 ^ format.exponentOf number) := by
      exact_mod_cast le_roundEven ((le_div_iff₀ step).mpr (between below).2)
    exact (between below).1.trans (mul_le_mul_of_nonneg_right rounded step.le)

theorem nearest_le (holds : format.Holds held) (above : number ≤ held) : format.nearest number ≤ held := by
  by_cases nonzero : number = 0
  · rw [nonzero, nearest_zero, ← nonzero]
    exact above
  · obtain ⟨whole, -, between⟩ := exists_multiple_between holds nonzero
    have step := two_zpow_pos (format.exponentOf number)
    have rounded : (roundEven (number / 2 ^ format.exponentOf number) : ℚ) ≤ whole := by
      exact_mod_cast roundEven_le ((div_le_iff₀ step).mpr (between above).1)
    exact (mul_le_mul_of_nonneg_right rounded step.le).trans (between above).2

/-- Rounding is odd. -/
@[simp]
theorem nearest_neg (number : ℚ) : format.nearest (-number) = -format.nearest number := by
  rw [nearest, nearest, exponentOf, exponentOf, abs_neg, neg_div, roundEven_neg, Int.cast_neg, neg_mul]

/-- A number that is held is rounded to itself. -/
theorem nearest_of_holds (holds : format.Holds number) : format.nearest number = number :=
  le_antisymm (nearest_le holds le_rfl) (le_nearest holds le_rfl)

theorem holds_two_zpow {exponent : ℤ} (least : format.least ≤ exponent) : format.Holds (2 ^ exponent) := by
  have held : format.Holds ((1 : ℤ) * 2 ^ exponent) :=
    holds_of_le least (by rw [abs_one]; exact one_le_pow₀ one_le_two)
  rwa [Int.cast_one, one_mul] at held

theorem two_zpow_of_exponentOf {top : ℤ} (coarsest : format.exponentOf number = top - format.precision) :
    (2 : ℚ) ^ top = 2 ^ format.precision * 2 ^ format.exponentOf number ∧
      (2 : ℚ) ^ (top - format.precision - 1) = 1 / 2 * 2 ^ format.exponentOf number := by
  rw [coarsest]
  constructor
  · rw [← zpow_natCast, ← zpow_add₀ two_ne_zero, add_sub_cancel]
  · rw [zpow_sub_one₀ two_ne_zero]
    ring

theorem nearest_lt {top : ℤ} (normal : format.least + format.precision ≤ top) (nonnegative : 0 ≤ number)
    (below : number < 2 ^ top - 2 ^ (top - format.precision - 1)) : format.nearest number < 2 ^ top := by
  have step := two_zpow_pos (format.exponentOf number)
  rcases nonnegative.eq_or_lt with zero | positive
  · rw [← zero, nearest_zero]
    exact two_zpow_pos top
  have bounded : number < 2 ^ top := below.trans (sub_lt_self _ (two_zpow_pos _))
  have logarithm : Int.log 2 |number| < top := by
    rw [abs_of_pos positive]
    exact (Int.lt_zpow_iff_log_lt one_lt_two positive).mp (by exact_mod_cast bounded)
  have coarse : format.exponentOf number ≤ top - format.precision := max_le (by omega) (by omega)
  rcases coarse.lt_or_eq with finer | coarsest
  · -- one binade below, the power of two that is next is held
    have next : format.Holds (2 ^ (top - 1)) := holds_two_zpow (by have := format.positive; omega)
    have fits : Int.log 2 |number| + 1 ≤ top - 1 := by
      have large : Int.log 2 |number| + 1 - format.precision ≤ format.exponentOf number := le_max_right _ _
      omega
    have small : number ≤ 2 ^ (top - 1) :=
      calc number ≤ |number| := le_abs_self number
        _ ≤ 2 ^ (Int.log 2 |number| + 1) := (Int.lt_zpow_succ_log_self one_lt_two |number|).le
        _ ≤ 2 ^ (top - 1) := zpow_le_zpow_right₀ one_le_two fits
    exact (nearest_le next small).trans_lt (zpow_lt_zpow_right₀ one_lt_two (by omega))
  · obtain ⟨whole, half⟩ := two_zpow_of_exponentOf coarsest
    rw [whole, half, ← sub_mul] at below
    have rounded : roundEven (number / 2 ^ format.exponentOf number) ≤ 2 ^ format.precision - 1 := by
      refine roundEven_le_of_lt ((div_lt_iff₀ step).mpr (below.trans_eq ?_))
      push_cast
      ring
    have less : (roundEven (number / 2 ^ format.exponentOf number) : ℚ) < 2 ^ format.precision := by
      exact_mod_cast (Int.lt_of_le_sub_one rounded)
    rw [whole]
    exact mul_lt_mul_of_pos_right less step

theorem two_zpow_le_nearest {top : ℤ} (normal : format.least + format.precision ≤ top)
    (above : (2 : ℚ) ^ top - 2 ^ (top - format.precision - 1) ≤ number) : 2 ^ top ≤ format.nearest number := by
  have wide := format.positive
  rcases le_or_gt ((2 : ℚ) ^ top) number with large | smaller
  · exact le_nearest (holds_two_zpow (by omega)) large
  · have half : (2 : ℚ) ^ (top - format.precision - 1) ≤ 2 ^ (top - 1) := zpow_le_zpow_right₀ one_le_two (by omega)
    have double : (2 : ℚ) ^ top = 2 * 2 ^ (top - 1) := by
      rw [mul_comm, ← zpow_add_one₀ two_ne_zero, sub_add_cancel]
    have least : (2 : ℚ) ^ (top - 1) ≤ number := by linarith
    have positive : 0 < number := (two_zpow_pos _).trans_le least
    have logarithm : Int.log 2 |number| = top - 1 := by
      rw [abs_of_pos positive]
      have lower : top - 1 ≤ Int.log 2 number :=
        (Int.zpow_le_iff_le_log one_lt_two positive).mp (by exact_mod_cast least)
      have upper : Int.log 2 number < top :=
        (Int.lt_zpow_iff_log_lt one_lt_two positive).mp (by exact_mod_cast smaller)
      omega
    have coarsest : format.exponentOf number = top - format.precision := by
      rw [exponentOf, logarithm, sub_add_cancel]
      exact max_eq_right (by omega)
    have step := two_zpow_pos (format.exponentOf number)
    obtain ⟨whole, halfStep⟩ := two_zpow_of_exponentOf coarsest
    have odd : ¬ (2 : ℤ) ∣ 2 ^ format.precision - 1 := by
      obtain ⟨bits, precision⟩ := Nat.exists_eq_succ_of_ne_zero wide.ne'
      rw [precision, pow_succ]
      omega
    have rounded : 2 ^ format.precision - 1 < roundEven (number / 2 ^ format.exponentOf number) := by
      refine lt_roundEven_of_half odd ((le_div_iff₀ step).mpr (le_trans (le_of_eq ?_) above))
      rw [whole, halfStep]
      push_cast
      ring
    have most : (2 : ℚ) ^ format.precision ≤ roundEven (number / 2 ^ format.exponentOf number) := by
      exact_mod_cast (Int.sub_one_lt_iff.mp rounded)
    rw [whole]
    exact mul_le_mul_of_nonneg_right most step.le

/-- Rounding keeps the order with a small integer below. -/
theorem lt_nearest_iff {whole other : ℤ} (small : |whole| < 2 ^ format.precision) :
    (whole : ℚ) < format.nearest other ↔ whole < other := by
  obtain ⟨lower, upper⟩ := abs_lt.mp small
  constructor
  · intro less
    by_contra above
    have held : format.Holds whole := holds_intCast small.le
    exact absurd less (not_lt.mpr (nearest_le held (by exact_mod_cast not_lt.mp above)))
  · intro less
    have next : format.Holds ((whole + 1 : ℤ) : ℚ) := holds_intCast (abs_le.mpr ⟨by omega, by omega⟩)
    have rounded : ((whole + 1 : ℤ) : ℚ) ≤ format.nearest other := le_nearest next (by exact_mod_cast less)
    push_cast at rounded
    linarith

/-- Rounding keeps the order with a small integer above. -/
theorem nearest_lt_iff {whole other : ℤ} (small : |whole| < 2 ^ format.precision) :
    format.nearest other < (whole : ℚ) ↔ other < whole := by
  obtain ⟨lower, upper⟩ := abs_lt.mp small
  constructor
  · intro less
    by_contra below
    have held : format.Holds whole := holds_intCast small.le
    exact absurd less (not_lt.mpr (le_nearest held (by exact_mod_cast not_lt.mp below)))
  · intro less
    have previous : format.Holds ((whole - 1 : ℤ) : ℚ) := holds_intCast (abs_le.mpr ⟨by omega, by omega⟩)
    have rounded : format.nearest other ≤ ((whole - 1 : ℤ) : ℚ) :=
      nearest_le previous (by exact_mod_cast Int.le_sub_one_of_lt less)
    push_cast at rounded
    linarith

/-- Only a small integer itself is rounded to it. -/
theorem eq_of_nearest_eq {whole other : ℤ} (small : |whole| < 2 ^ format.precision)
    (rounded : format.nearest other = whole) : other = whole := by
  have notAbove : ¬ whole < other := (lt_nearest_iff small).not.mp (by rw [rounded]; exact lt_irrefl _)
  have notBelow : ¬ other < whole := (nearest_lt_iff small).not.mp (by rw [rounded]; exact lt_irrefl _)
  omega

/-! ### Shortest decimals -/

variable (format) in
/-- The multiple of a power of ten that is rounded to this number, the nearest one first. -/
def decimalAt (number : ℚ) (power : ℤ) : Option ℤ :=
  [roundEven (number / 10 ^ power), ⌊number / 10 ^ power⌋, ⌈number / 10 ^ power⌉].find? fun digits =>
    format.nearest (digits * 10 ^ power) = number

variable (format) in
/-- The search for the largest power of ten, in so many steps. -/
def shortestFrom (number : ℚ) : Nat → ℤ → ℤ × ℤ
  | 0, power => (⌊number / 10 ^ power⌋, power)
  | steps + 1, power =>
    match format.decimalAt number power with
    | some digits => (digits, power)
    | none => shortestFrom number steps (power - 1)

variable (format) in
/-- The shortest decimal that is rounded to a number of the format: its digits, and their power of ten. -/
def shortest (number : ℚ) : ℤ × ℤ :=
  let start := Int.log 10 |number| + 1
  format.shortestFrom number (start - format.least).toNat start

theorem ten_zpow_pos (power : ℤ) : (0 : ℚ) < 10 ^ power :=
  zpow_pos (by norm_num) power

theorem nearest_decimalAt {power digits : ℤ} (found : format.decimalAt number power = some digits) :
    format.nearest (digits * 10 ^ power) = number := by
  have reads := List.find?_some found
  exact of_decide_eq_true reads

theorem mem_of_decimalAt {power digits : ℤ} (found : format.decimalAt number power = some digits) :
    digits = roundEven (number / 10 ^ power) ∨ digits = ⌊number / 10 ^ power⌋ ∨ digits = ⌈number / 10 ^ power⌉ := by
  have member := List.mem_of_find?_eq_some found
  simpa using member

theorem nearest_shortestFrom (holds : format.Holds number) (steps : Nat) {power : ℤ}
    (multiple : ∃ whole : ℤ, number = whole * 10 ^ (power - steps)) :
    format.nearest ((format.shortestFrom number steps power).1 * 10 ^ (format.shortestFrom number steps power).2) =
      number := by
  induction steps generalizing power with
  | zero =>
    obtain ⟨whole, same⟩ := multiple
    rw [Nat.cast_zero, sub_zero] at same
    have quotient : number / 10 ^ power = whole := by rw [same, mul_div_cancel_right₀ _ (ten_zpow_pos power).ne']
    rw [shortestFrom]
    dsimp only
    rw [quotient, Int.floor_intCast, ← same, nearest_of_holds holds]
  | succ steps hypothesis =>
    rw [shortestFrom]
    cases found : format.decimalAt number power with
    | some digits => exact nearest_decimalAt found
    | none =>
      refine hypothesis ?_
      obtain ⟨whole, same⟩ := multiple
      refine ⟨whole, same.trans ?_⟩
      push_cast
      congr 2
      ring

theorem exists_multiple_of_holds (holds : format.Holds number) :
    ∃ whole : ℤ, number = whole * 10 ^ format.least := by
  obtain ⟨significand, exponent, least, -, rfl⟩ := holds
  obtain ⟨more, rfl⟩ := Int.le.dest least
  obtain ⟨depth, deep⟩ := Int.eq_ofNat_of_zero_le (neg_nonneg.mpr format.nonpositive)
  have same : format.least = -(depth : ℤ) := by omega
  refine ⟨significand * 2 ^ more * 5 ^ depth, ?_⟩
  have ten : (10 : ℚ) ^ depth = 2 ^ depth * 5 ^ depth := by rw [← mul_pow]; norm_num
  rw [zpow_add₀ two_ne_zero, same, zpow_neg, zpow_neg, zpow_natCast, zpow_natCast, zpow_natCast, ten]
  push_cast
  field_simp

theorem least_le_start (holds : format.Holds number) : format.least ≤ Int.log 10 |number| + 1 := by
  by_cases zero : number = 0
  · have nonpositive := format.nonpositive
    rw [zero, abs_zero, Int.log_zero_right]
    omega
  · have positive := abs_pos.mpr zero
    obtain ⟨whole, same⟩ := exists_multiple_of_holds holds
    have nonzero : whole ≠ 0 := by
      rintro rfl
      rw [Int.cast_zero, zero_mul] at same
      exact zero same
    have atLeast : (1 : ℚ) ≤ |(whole : ℚ)| := by exact_mod_cast Int.one_le_abs nonzero
    have large : (10 : ℚ) ^ format.least ≤ |number| :=
      calc (10 : ℚ) ^ format.least = 1 * 10 ^ format.least := (one_mul _).symm
        _ ≤ |(whole : ℚ)| * 10 ^ format.least := mul_le_mul_of_nonneg_right atLeast (ten_zpow_pos _).le
        _ = |number| := by rw [same, abs_mul, abs_of_pos (ten_zpow_pos _)]
    have logarithm : format.least ≤ Int.log 10 |number| :=
      (Int.zpow_le_iff_le_log (by norm_num) positive).mp (by exact_mod_cast large)
    omega

/-- The shortest decimal is rounded back. -/
theorem nearest_shortest (holds : format.Holds number) :
    format.nearest ((format.shortest number).1 * 10 ^ (format.shortest number).2) = number := by
  refine nearest_shortestFrom holds _ ?_
  have deep := least_le_start holds
  rw [Int.toNat_of_nonneg (by omega), sub_sub_cancel]
  exact exists_multiple_of_holds holds

theorem shortestFrom_digits_nonneg (nonnegative : 0 ≤ number) (steps : Nat) (power : ℤ) :
    0 ≤ (format.shortestFrom number steps power).1 := by
  have quotient (power : ℤ) : ((0 : ℤ) : ℚ) ≤ number / 10 ^ power := by
    rw [Int.cast_zero]
    exact div_nonneg nonnegative (ten_zpow_pos power).le
  induction steps generalizing power with
  | zero => exact Int.le_floor.mpr (quotient power)
  | succ steps hypothesis =>
    rw [shortestFrom]
    cases found : format.decimalAt number power with
    | none => exact hypothesis _
    | some digits =>
      rcases mem_of_decimalAt found with rfl | rfl | rfl
      · exact le_roundEven (quotient power)
      · exact Int.le_floor.mpr (quotient power)
      · exact Int.ceil_nonneg (by simpa using quotient power)

theorem shortest_digits_nonneg (nonnegative : 0 ≤ number) : 0 ≤ (format.shortest number).1 :=
  shortestFrom_digits_nonneg nonnegative _ _

theorem shortestFrom_power_nonneg {whole : ℤ} (holds : format.Holds whole) (steps : Nat) {power : ℤ}
    (nonnegative : 0 ≤ power) : 0 ≤ (format.shortestFrom whole steps power).2 := by
  induction steps generalizing power with
  | zero => exact nonnegative
  | succ steps hypothesis =>
    rw [shortestFrom]
    cases found : format.decimalAt whole power with
    | some digits => exact nonnegative
    | none =>
      rcases nonnegative.lt_or_eq with positive | units
      · exact hypothesis (by omega)
      · subst units
        have missed := List.find?_eq_none.mp found whole (by simp)
        rw [zpow_zero, mul_one, nearest_of_holds holds] at missed
        exact absurd (decide_eq_true rfl) missed

theorem shortest_power_nonneg {whole : ℤ} (holds : format.Holds whole) : 0 ≤ (format.shortest whole).2 := by
  refine shortestFrom_power_nonneg holds _ ?_
  by_cases zero : whole = 0
  · rw [zero, Int.cast_zero, abs_zero, Int.log_zero_right]
    omega
  · have atLeast : (1 : ℚ) ≤ |(whole : ℚ)| := by exact_mod_cast Int.one_le_abs zero
    rw [Int.log_of_one_le_right 10 atLeast]
    omega

/-- The shortest decimal of a small integer is the integer. -/
theorem shortest_of_small {whole : ℤ} (small : |whole| < 2 ^ format.precision) :
    (format.shortest whole).1 * 10 ^ (format.shortest whole).2.toNat = whole := by
  have holds : format.Holds whole := holds_intCast small.le
  have reads := nearest_shortest holds
  refine eq_of_nearest_eq small ?_
  push_cast
  rwa [← zpow_natCast, Int.toNat_of_nonneg (shortest_power_nonneg holds)]

end BinaryFormat

end BinaryNumbers

end MqConnector
