/-
General: the exact numbers with two infinities and a value that is not a number.

The operations follow the rules for the special values of floating-point arithmetic; on
finite numbers they are exact. There is one zero.
-/

import Mathlib.Data.Rat.Floor

inductive Extended
  | finite (value : ℚ)
  | posInf
  | negInf
  | nan
  deriving DecidableEq

namespace Extended

instance : Zero Extended :=
  ⟨finite 0⟩

instance : RatCast Extended :=
  ⟨finite⟩

/-- The infinity of the sign of a number; there is none for zero. -/
def infinity (sign : ℚ) : Extended :=
  if 0 < sign then posInf else if sign < 0 then negInf else nan

/-- A number with the sign of this one. -/
def signum : Extended → ℚ
  | finite value => value
  | posInf => 1
  | negInf => -1
  | nan => 0

protected def neg : Extended → Extended
  | finite value => finite (-value)
  | posInf => negInf
  | negInf => posInf
  | nan => nan

instance : Neg Extended :=
  ⟨Extended.neg⟩

protected def add : Extended → Extended → Extended
  | finite value, finite other => finite (value + other)
  | nan, _ => nan
  | _, nan => nan
  | posInf, negInf => nan
  | negInf, posInf => nan
  | posInf, _ => posInf
  | _, posInf => posInf
  | negInf, _ => negInf
  | _, negInf => negInf

instance : Add Extended :=
  ⟨Extended.add⟩

instance : Sub Extended :=
  ⟨fun value other => value + -other⟩

protected def mul : Extended → Extended → Extended
  | finite value, finite other => finite (value * other)
  | value, other => infinity (signum value * signum other)

instance : Mul Extended :=
  ⟨Extended.mul⟩

protected def div : Extended → Extended → Extended
  | nan, _ => nan
  | _, nan => nan
  | finite value, finite other => if other = 0 then infinity value else finite (value / other)
  | finite _, _ => finite 0
  | value, finite other => infinity (signum value * if other < 0 then -1 else 1)
  | _, _ => nan

instance : Div Extended :=
  ⟨Extended.div⟩

/-- Whether one is less than the other, which nothing is when one of the two is not a number. -/
def isLess : Extended → Extended → Bool
  | finite value, finite other => value < other
  | finite _, posInf => true
  | negInf, finite _ => true
  | negInf, posInf => true
  | _, _ => false

instance : LT Extended :=
  ⟨fun value other => isLess value other = true⟩

instance : DecidableLT Extended := fun value other =>
  inferInstanceAs (Decidable (isLess value other = true))

/-- Whether two are equal; what is not a number is not even equal to itself. -/
def isEqual (value other : Extended) : Bool :=
  value = other && value != nan

instance : LE Extended :=
  ⟨fun value other => (isLess value other || isEqual value other) = true⟩

instance : DecidableLE Extended := fun value other =>
  inferInstanceAs (Decidable ((isLess value other || isEqual value other) = true))

/-! ### Sums -/

section Sums

protected theorem zero_add (value : Extended) : 0 + value = value := by
  cases value with
  | finite value => exact congrArg finite (zero_add value)
  | posInf => rfl
  | negInf => rfl
  | nan => rfl

protected theorem add_comm (value other : Extended) : value + other = other + value := by
  cases value <;> cases other <;> first | rfl | exact congrArg finite (add_comm _ _)

protected theorem add_assoc (value other third : Extended) :
    value + other + third = value + (other + third) := by
  cases value <;> cases other <;> cases third <;> first | rfl | exact congrArg finite (add_assoc _ _ _)

instance : AddCommMonoid Extended where
  add_assoc := Extended.add_assoc
  zero_add := Extended.zero_add
  add_zero value := (Extended.add_comm value 0).trans (Extended.zero_add value)
  add_comm := Extended.add_comm
  nsmul := nsmulRec

theorem foldl_add (values : List Extended) : values.foldl (· + ·) 0 = values.sum := by
  rw [List.sum_eq_foldl]

end Sums

/-! ### Finite numbers -/

/-- Neither an infinity nor not a number. -/
def IsFinite (value : Extended) : Prop :=
  ∃ exact, value = finite exact

section IsFinite

variable {value other : Extended}

instance : DecidablePred IsFinite := fun value =>
  match value with
  | finite exact => isTrue ⟨exact, rfl⟩
  | posInf => isFalse (by rintro ⟨exact, same⟩; cases same)
  | negInf => isFalse (by rintro ⟨exact, same⟩; cases same)
  | nan => isFalse (by rintro ⟨exact, same⟩; cases same)

@[simp] theorem finite_add_finite (exact other : ℚ) : finite exact + finite other = finite (exact + other) :=
  rfl

@[simp] theorem finite_sub_finite (exact other : ℚ) : finite exact - finite other = finite (exact - other) :=
  congrArg finite (sub_eq_add_neg exact other).symm

@[simp] theorem finite_mul_finite (exact other : ℚ) : finite exact * finite other = finite (exact * other) :=
  rfl

theorem finite_div_finite (exact : ℚ) {other : ℚ} (nonzero : other ≠ 0) :
    finite exact / finite other = finite (exact / other) := by
  show Extended.div (finite exact) (finite other) = _
  rw [Extended.div, if_neg nonzero]

@[simp] theorem finite_lt_finite (exact other : ℚ) : finite exact < finite other ↔ exact < other := by
  show decide (exact < other) = true ↔ _
  rw [decide_eq_true_eq]

@[simp] theorem finite_le_finite (exact other : ℚ) : finite exact ≤ finite other ↔ exact ≤ other := by
  show (isLess (finite exact) (finite other) || isEqual (finite exact) (finite other)) = true ↔ _
  simp [isLess, isEqual, le_iff_lt_or_eq]

theorem not_lt_of_lt (less : value < other) : ¬ other < value := by
  intro beyond
  have less : isLess value other = true := less
  have beyond : isLess other value = true := beyond
  cases value <;> cases other <;> simp [isLess] at less beyond
  exact lt_asymm less beyond

theorem isFinite_zero : IsFinite 0 :=
  ⟨0, rfl⟩

theorem isFinite_cast (exact : ℚ) : IsFinite (exact : Extended) :=
  ⟨exact, rfl⟩

theorem IsFinite.neg (known : IsFinite value) : IsFinite (-value) := by
  obtain ⟨exact, rfl⟩ := known
  exact ⟨-exact, rfl⟩

theorem IsFinite.add (known : IsFinite value) (second : IsFinite other) : IsFinite (value + other) := by
  obtain ⟨exact, rfl⟩ := known
  obtain ⟨further, rfl⟩ := second
  exact ⟨exact + further, rfl⟩

theorem IsFinite.sub (known : IsFinite value) (second : IsFinite other) : IsFinite (value - other) :=
  known.add second.neg

theorem IsFinite.mul (known : IsFinite value) (second : IsFinite other) : IsFinite (value * other) := by
  obtain ⟨exact, rfl⟩ := known
  obtain ⟨further, rfl⟩ := second
  exact ⟨exact * further, rfl⟩

theorem IsFinite.div (known : IsFinite value) (second : IsFinite other) (nonzero : other ≠ 0) :
    IsFinite (value / other) := by
  obtain ⟨exact, rfl⟩ := known
  obtain ⟨further, rfl⟩ := second
  have apart : further ≠ 0 := fun same => nonzero (congrArg finite same)
  exact ⟨exact / further, if_neg apart⟩

end IsFinite

end Extended
