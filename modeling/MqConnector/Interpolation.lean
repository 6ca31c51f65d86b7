/-
This file is a small library on linear interpolation of cumulative counts.

A knot is a bound with the count of what lies at or below it. To look a target up is to
find the first knot whose count reaches it, and to interpolate between the knot before and
this one.
-/

import Mathlib.Algebra.Order.Field.Basic
import Mathlib.Tactic.Linarith

namespace Interpolation

variable {Number : Type} [Field Number] [LinearOrder Number]

structure Knot (Number : Type) where
  bound : Number
  count : Number

/-- The knots rise, from a bound and a count on. -/
inductive Rising : Number → Number → List (Knot Number) → Prop
  | nil {low before : Number} : Rising low before []
  | cons {low before : Number} {knot : Knot Number} {rest : List (Knot Number)}
      (bound : low ≤ knot.bound) (count : before ≤ knot.count)
      (further : Rising knot.bound knot.count rest) : Rising low before (knot :: rest)

/-- The value at which the counts reach the target. -/
def value (target : Number) : Number → Number → List (Knot Number) → Number
  | low, _, [] => low
  | low, before, knot :: rest =>
    if target ≤ knot.count then
      if knot.count - before ≤ 0 then low
      else low + (knot.bound - low) * ((target - before) / (knot.count - before))
    else value target knot.bound knot.count rest

def lastBound : Number → List (Knot Number) → Number
  | low, [] => low
  | _, knot :: rest => lastBound knot.bound rest

section Lemmas

variable [IsStrictOrderedRing Number] {low before target : Number} {knots : List (Knot Number)}

omit [Field Number] [IsStrictOrderedRing Number] in
theorem Rising.le_lastBound (rising : Rising low before knots) : low ≤ lastBound low knots := by
  induction rising with
  | nil => exact le_rfl
  | cons bound _ _ hypothesis => exact bound.trans hypothesis

theorem bucket_bounds {knot : Knot Number} (bound : low ≤ knot.bound) (above : before ≤ target)
    (reached : target ≤ knot.count) (wide : ¬ knot.count - before ≤ 0) :
    low ≤ low + (knot.bound - low) * ((target - before) / (knot.count - before)) ∧
      low + (knot.bound - low) * ((target - before) / (knot.count - before)) ≤ knot.bound := by
  have positive : 0 < knot.count - before := not_le.mp wide
  have lower : 0 ≤ (target - before) / (knot.count - before) :=
    div_nonneg (sub_nonneg.mpr above) positive.le
  have upper : (target - before) / (knot.count - before) ≤ 1 :=
    (div_le_one positive).mpr (sub_le_sub_right reached before)
  have width : 0 ≤ knot.bound - low := sub_nonneg.mpr bound
  constructor
  · exact le_add_of_nonneg_right (mul_nonneg width lower)
  · have most := mul_le_of_le_one_right width upper
    linarith

section Knots

variable {knot : Knot Number} {rest : List (Knot Number)}

omit [IsStrictOrderedRing Number] in
theorem value_reached (reached : target ≤ knot.count) :
    value target low before (knot :: rest) =
      if knot.count - before ≤ 0 then low
      else low + (knot.bound - low) * ((target - before) / (knot.count - before)) :=
  if_pos reached

omit [IsStrictOrderedRing Number] in
theorem value_further (beyond : knot.count < target) :
    value target low before (knot :: rest) = value target knot.bound knot.count rest :=
  if_neg (not_le.mpr beyond)

end Knots

/-- The value lies above the lower bound. -/
theorem le_value (rising : Rising low before knots) (above : before ≤ target) :
    low ≤ value target low before knots := by
  induction rising with
  | nil => exact le_rfl
  | cons bound count _ hypothesis =>
    rcases le_or_gt target _ with reached | beyond
    · rw [value_reached reached]
      split
      case isTrue => exact le_rfl
      case isFalse wide => exact (bucket_bounds bound above reached wide).1
    · rw [value_further beyond]
      exact bound.trans (hypothesis beyond.le)

/-- The value lies below the last bound. -/
theorem value_le_lastBound (rising : Rising low before knots) (above : before ≤ target) :
    value target low before knots ≤ lastBound low knots := by
  induction rising with
  | nil => exact le_rfl
  | cons bound count further hypothesis =>
    rcases le_or_gt target _ with reached | beyond
    · rw [value_reached reached]
      refine le_trans ?_ further.le_lastBound
      split
      case isTrue => exact bound
      case isFalse wide => exact (bucket_bounds bound above reached wide).2
    · rw [value_further beyond]
      exact hypothesis beyond.le

omit [IsStrictOrderedRing Number] in
theorem value_append {rest : List (Knot Number)} (rising : Rising low before (knots ++ rest))
    (above : before ≤ target) (below : ∀ knot ∈ knots, knot.count < target) :
    ∃ last, last ≤ target ∧ Rising (lastBound low knots) last rest ∧
      value target low before (knots ++ rest) = value target (lastBound low knots) last rest := by
  induction knots generalizing low before with
  | nil => exact ⟨before, above, rising, rfl⟩
  | cons knot knots hypothesis =>
    have short := below knot List.mem_cons_self
    cases rising with
    | cons _ _ further =>
      obtain ⟨last, lastAbove, remaining, same⟩ := hypothesis further short.le
        fun other member => below other (List.mem_cons_of_mem _ member)
      refine ⟨last, lastAbove, remaining, ?_⟩
      rw [List.cons_append, value_further short, same]
      rfl

/-- A target within a bucket has its value between the bounds of the bucket. -/
theorem value_within {knot : Knot Number} {rest : List (Knot Number)}
    (rising : Rising low before (knots ++ knot :: rest)) (above : before ≤ target)
    (below : ∀ knot ∈ knots, knot.count < target) (reached : target ≤ knot.count) :
    lastBound low knots ≤ value target low before (knots ++ knot :: rest) ∧
      value target low before (knots ++ knot :: rest) ≤ knot.bound := by
  obtain ⟨last, lastAbove, remaining, same⟩ := value_append rising above below
  rw [same]
  refine ⟨le_value remaining lastAbove, ?_⟩
  cases remaining with
  | cons bound _ _ =>
    rw [value_reached reached]
    split
    case isTrue => exact bound
    case isFalse wide => exact (bucket_bounds bound lastAbove reached wide).2

omit [IsStrictOrderedRing Number] in
/-- Beyond the last count stands the last bound. -/
theorem value_beyond (below : ∀ knot ∈ knots, knot.count < target) :
    value target low before knots = lastBound low knots := by
  induction knots generalizing low before with
  | nil => rfl
  | cons knot knots hypothesis =>
    rw [value_further (below knot List.mem_cons_self)]
    exact hypothesis fun other member => below other (List.mem_cons_of_mem _ member)

/-- The value grows with the target. -/
theorem value_mono {later : Number} (rising : Rising low before knots) (above : before ≤ target)
    (later_le : target ≤ later) : value target low before knots ≤ value later low before knots := by
  induction rising with
  | nil => exact le_rfl
  | @cons low before knot rest bound count further hypothesis =>
    rcases le_or_gt later knot.count with laterReached | laterBeyond
    · -- Both are reached in this bucket.
      rw [value_reached laterReached, value_reached (later_le.trans laterReached)]
      split
      case isTrue => exact le_rfl
      case isFalse wide =>
        have positive : 0 < knot.count - before := not_le.mp wide
        have fraction : (target - before) / (knot.count - before) ≤ (later - before) / (knot.count - before) :=
          div_le_div_of_nonneg_right (sub_le_sub_right later_le before) positive.le
        exact add_le_add_right (mul_le_mul_of_nonneg_left fraction (sub_nonneg.mpr bound)) low
    · rw [value_further laterBeyond]
      rcases le_or_gt target knot.count with reached | beyond
      · -- The bound of this bucket is between the two values.
        rw [value_reached reached]
        refine le_trans ?_ (le_value further laterBeyond.le)
        split
        case isTrue => exact bound
        case isFalse wide => exact (bucket_bounds bound above reached wide).2
      · rw [value_further beyond]
        exact hypothesis beyond.le

end Lemmas

end Interpolation
