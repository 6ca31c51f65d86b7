/-
This file develops expressions that are written flat, as values with operations between them,
and compares two ways to read them.

The usual reading multiplies and divides before it adds and subtracts, from the left. The other
one splits at the first occurrence of an operation, for each operation in a fixed order, which
associates to the right. They differ in what a second subtraction or division does.
-/

import Mathlib.Algebra.Order.Field.Basic
import Mathlib.Tactic.FieldSimp
import Mathlib.Tactic.Linarith
import Mathlib.Tactic.LinearCombination
import Mathlib.Tactic.Ring

namespace FlatExpressions

/-- An operation between two values. -/
inductive Operation
  | add | sub | mul | div
  deriving DecidableEq

/-- The order in which the operations are looked for. -/
def operations : List Operation := [.add, .sub, .mul, .div]

variable {Scalar : Type} [Field Scalar]

/-! ### Two readings -/

section Readings

variable [DecidableEq Scalar]

/-- The usual reading: the sum of the terms that are read, and the term at hand with its sign. -/
def leftValue (sum term : Scalar) : List (Operation × Scalar) → Option Scalar
  | [] => some (sum + term)
  | (.add, value) :: rest => leftValue (sum + term) value rest
  | (.sub, value) :: rest => leftValue (sum + term) (-value) rest
  | (.mul, value) :: rest => leftValue sum (term * value) rest
  | (.div, value) :: rest => if value = 0 then none else leftValue sum (term / value) rest

/-- The value under the usual precedence with left association, unless a divisor is zero. -/
def standardValue (first : Scalar) (rest : List (Operation × Scalar)) : Option Scalar :=
  leftValue 0 first rest

/-- What stands before and after the first occurrence of an operation. -/
def splitFirst {Entry : Type} (op : Operation) :
    List (Operation × Entry) → Option (List (Operation × Entry) × Entry × List (Operation × Entry))
  | [] => none
  | (other, value) :: rest =>
    if other = op then some ([], value, rest)
    else (splitFirst op rest).map fun parts => ((other, value) :: parts.1, parts.2)

theorem splitFirst_eq_some {Entry : Type} {op : Operation} {rest before after : List (Operation × Entry)}
    {value : Entry} (here : splitFirst op rest = some (before, value, after)) :
    rest = before ++ (op, value) :: after ∧ ∀ entry ∈ before, entry.1 ≠ op := by
  induction rest generalizing before with
  | nil => cases here
  | cons entry rest hypothesis =>
    obtain ⟨other, held⟩ := entry
    rw [splitFirst] at here
    split at here
    case isTrue same =>
      cases here
      exact ⟨same ▸ rfl, fun entry member => absurd member List.not_mem_nil⟩
    case isFalse differ =>
      obtain ⟨⟨front, value, after⟩, further, same⟩ := Option.map_eq_some_iff.mp here
      cases same
      obtain ⟨whole, apart⟩ := hypothesis further
      exact ⟨congrArg _ whole, List.forall_mem_cons.mpr ⟨differ, apart⟩⟩

theorem splitFirst_eq_none {Entry : Type} {op : Operation} {rest : List (Operation × Entry)}
    (nowhere : splitFirst op rest = none) : ∀ entry ∈ rest, entry.1 ≠ op := by
  induction rest with
  | nil => exact fun entry member => absurd member List.not_mem_nil
  | cons entry rest hypothesis =>
    rw [splitFirst] at nowhere
    split at nowhere
    case isTrue => cases nowhere
    case isFalse differ =>
      exact List.forall_mem_cons.mpr ⟨differ, hypothesis (Option.map_eq_none_iff.mp nowhere)⟩

theorem splitFirst_map {Entry Other : Type} (change : Entry → Other) (op : Operation)
    (rest : List (Operation × Entry)) :
    splitFirst op (rest.map fun entry => (entry.1, change entry.2)) =
      (splitFirst op rest).map fun parts => (parts.1.map fun entry => (entry.1, change entry.2),
        change parts.2.1, parts.2.2.map fun entry => (entry.1, change entry.2)) := by
  induction rest with
  | nil => rfl
  | cons entry rest hypothesis =>
    obtain ⟨other, held⟩ := entry
    rw [List.map_cons, splitFirst, splitFirst]
    split
    · rfl
    · rw [hypothesis, Option.map_map, Option.map_map]
      rfl

/-- One operation on two values, unless it divides by zero. -/
def applyOperation (left right : Scalar) : Operation → Option Scalar
  | .add => some (left + right)
  | .sub => some (left - right)
  | .mul => some (left * right)
  | .div => if right = 0 then none else some (left / right)

/-- The reading that splits at the first occurrence of an operation, with the operations that are left
to look for. -/
def firstValue (left : List Operation) (first : Scalar) (rest : List (Operation × Scalar)) : Option Scalar :=
  match left with
  | [] => some first
  | op :: others =>
    match _ : splitFirst op rest with
    | none => firstValue others first rest
    | some (before, value, after) =>
      (firstValue operations first before).bind fun lhs =>
        (firstValue operations value after).bind fun rhs => applyOperation lhs rhs op
termination_by (rest.length, left.length)
decreasing_by
  · exact Prod.Lex.right _ (Nat.lt_succ_self _)
  · rename_i here
    have whole := congrArg List.length (splitFirst_eq_some here).1
    rw [List.length_append, List.length_cons] at whole
    exact Prod.Lex.left _ _ (by omega)
  · rename_i here
    have whole := congrArg List.length (splitFirst_eq_some here).1
    rw [List.length_append, List.length_cons] at whole
    exact Prod.Lex.left _ _ (by omega)

section Equations

variable {op : Operation} {others : List Operation} {first value : Scalar}
  {rest before after : List (Operation × Scalar)}

theorem firstValue_of_none (nowhere : splitFirst op rest = none) :
    firstValue (op :: others) first rest = firstValue others first rest := by
  rw [firstValue]
  split
  case h_1 => rfl
  case h_2 here =>
    rw [nowhere] at here
    cases here

theorem firstValue_of_some (here : splitFirst op rest = some (before, value, after)) :
    firstValue (op :: others) first rest =
      (firstValue operations first before).bind fun lhs =>
        (firstValue operations value after).bind fun rhs => applyOperation lhs rhs op := by
  rw [firstValue]
  split
  case h_1 nowhere =>
    rw [here] at nowhere
    cases nowhere
  case h_2 other =>
    rw [here] at other
    cases other
    rfl

end Equations

end Readings

/-! ### Sweeps -/

def signed (negative : Bool) (value : Scalar) : Scalar :=
  if negative then -value else value

/-- A reading from the left with the sum of the terms that are read, the sign of the term at hand, whether
it was divided last, and the term. A second subtraction or division in a row turns the first one around, or
repeats it. -/
def sweep (turns : Bool) (sum : Scalar) (negative inverse : Bool) (term : Scalar) :
    List (Operation × Scalar) → Scalar
  | [] => sum + signed negative term
  | (.add, value) :: rest => sweep turns (sum + signed negative term) false false value rest
  | (.sub, value) :: rest => sweep turns (sum + signed negative term) (!(turns && negative)) false value rest
  | (.mul, value) :: rest => sweep turns sum negative false (term * value) rest
  | (.div, value) :: rest =>
    if turns && inverse then sweep turns sum negative false (term * value) rest
    else sweep turns sum negative true (term / value) rest

def Divisible (rest : List (Operation × Scalar)) : Prop :=
  ∀ entry ∈ rest, entry.1 = .div → entry.2 ≠ 0

section Sweeps

theorem signed_mul (negative : Bool) (term factor : Scalar) :
    signed negative term * factor = signed negative (term * factor) := by
  cases negative
  · rfl
  · exact neg_mul term factor

theorem signed_div (negative : Bool) (term divisor : Scalar) :
    signed negative term / divisor = signed negative (term / divisor) := by
  cases negative
  · rfl
  · exact neg_div divisor term

theorem divisible_cons (op : Operation) (value : Scalar) (rest : List (Operation × Scalar)) :
    Divisible ((op, value) :: rest) ↔ (op = .div → value ≠ 0) ∧ Divisible rest :=
  List.forall_mem_cons

theorem divisible_append (before rest : List (Operation × Scalar)) :
    Divisible (before ++ rest) ↔ Divisible before ∧ Divisible rest :=
  List.forall_mem_append

variable {turns : Bool}

attribute [local simp] sweep

theorem sweep_sum (sum : Scalar) (negative inverse : Bool) (term : Scalar)
    (rest : List (Operation × Scalar)) :
    sweep turns sum negative inverse term rest = sum + sweep turns 0 negative inverse term rest := by
  induction rest generalizing sum negative inverse term with
  | nil => simp
  | cons entry rest hypothesis =>
    obtain ⟨op, value⟩ := entry
    cases op with
    | add =>
      rw [sweep, sweep, hypothesis, hypothesis (0 + signed negative term)]
      ring
    | sub =>
      rw [sweep, sweep, hypothesis, hypothesis (0 + signed negative term)]
      ring
    | mul => rw [sweep, sweep, hypothesis]
    | div =>
      rw [sweep, sweep]
      split
      · exact hypothesis ..
      · exact hypothesis ..

theorem sweep_add (sum : Scalar) (negative inverse : Bool) (term value : Scalar)
    (before after : List (Operation × Scalar)) :
    sweep turns sum negative inverse term (before ++ (.add, value) :: after) =
      sweep turns sum negative inverse term before + sweep turns 0 false false value after := by
  induction before generalizing sum negative inverse term with
  | nil => rw [List.nil_append, sweep, sweep, sweep_sum]
  | cons entry before hypothesis =>
    obtain ⟨op, held⟩ := entry
    rw [List.cons_append]
    cases op with
    | add | sub | mul => rw [sweep, sweep, hypothesis]
    | div =>
      rw [sweep, sweep]
      split
      · exact hypothesis ..
      · exact hypothesis ..

theorem sweep_opposite (negative inverse : Bool) (term : Scalar) {rest : List (Operation × Scalar)}
    (apart : ∀ entry ∈ rest, entry.1 ≠ .add) :
    sweep true 0 (!negative) inverse term rest = -sweep true 0 negative inverse term rest := by
  have opposite (negative : Bool) (term : Scalar) : signed (!negative) term = -signed negative term := by
    cases negative
    · rfl
    · exact (neg_neg term).symm
  induction rest generalizing negative inverse term with
  | nil => rw [sweep, sweep, zero_add, zero_add, opposite]
  | cons entry rest hypothesis =>
    obtain ⟨op, value⟩ := entry
    obtain ⟨first, others⟩ := List.forall_mem_cons.mp apart
    cases op with
    | add => exact absurd rfl first
    | sub =>
      rw [sweep, sweep, sweep_sum, sweep_sum (0 + signed negative term), opposite, Bool.true_and, Bool.true_and,
        hypothesis _ false value others]
      ring
    | mul =>
      rw [sweep, sweep]
      exact hypothesis _ _ _ others
    | div =>
      rw [sweep, sweep]
      split
      · exact hypothesis _ _ _ others
      · exact hypothesis _ _ _ others

theorem sweep_sub (sum : Scalar) (inverse : Bool) (term value : Scalar)
    {before after : List (Operation × Scalar)}
    (terms : ∀ entry ∈ before, entry.1 ≠ .add ∧ entry.1 ≠ .sub) (apart : ∀ entry ∈ after, entry.1 ≠ .add) :
    sweep true sum false inverse term (before ++ (.sub, value) :: after) =
      sweep true sum false inverse term before - sweep true 0 false false value after := by
  induction before generalizing inverse term with
  | nil =>
    rw [List.nil_append, sweep, sweep, sweep_sum, Bool.and_false, sub_eq_add_neg,
      ← sweep_opposite false false value apart]
  | cons entry before hypothesis =>
    obtain ⟨op, held⟩ := entry
    obtain ⟨first, others⟩ := List.forall_mem_cons.mp terms
    rw [List.cons_append]
    cases op with
    | add => exact absurd rfl first.1
    | sub => exact absurd rfl first.2
    | mul => rw [sweep, sweep, hypothesis _ _ others]
    | div =>
      rw [sweep, sweep]
      split
      · exact hypothesis _ _ others
      · exact hypothesis _ _ others

theorem sweep_scale (inverse : Bool) (factor term : Scalar) {rest : List (Operation × Scalar)}
    (terms : ∀ entry ∈ rest, entry.1 ≠ .add ∧ entry.1 ≠ .sub) :
    sweep turns 0 false inverse (factor * term) rest = factor * sweep turns 0 false inverse term rest := by
  induction rest generalizing inverse term with
  | nil =>
    rw [sweep, sweep, zero_add, zero_add]
    rfl
  | cons entry rest hypothesis =>
    obtain ⟨op, value⟩ := entry
    obtain ⟨first, others⟩ := List.forall_mem_cons.mp terms
    cases op with
    | add => exact absurd rfl first.1
    | sub => exact absurd rfl first.2
    | mul => rw [sweep, sweep, mul_assoc, hypothesis _ _ others]
    | div =>
      rw [sweep, sweep]
      split
      · rw [mul_assoc, hypothesis _ _ others]
      · rw [mul_div_assoc, hypothesis _ _ others]

theorem sweep_mul (inverse : Bool) (term value : Scalar) {before after : List (Operation × Scalar)}
    (first : ∀ entry ∈ before, entry.1 ≠ .add ∧ entry.1 ≠ .sub)
    (second : ∀ entry ∈ after, entry.1 ≠ .add ∧ entry.1 ≠ .sub) :
    sweep turns 0 false inverse term (before ++ (.mul, value) :: after) =
      sweep turns 0 false inverse term before * sweep turns 0 false false value after := by
  induction before generalizing inverse term with
  | nil =>
    rw [List.nil_append, sweep, sweep, sweep_scale _ _ _ second, zero_add]
    rfl
  | cons entry before hypothesis =>
    obtain ⟨op, held⟩ := entry
    obtain ⟨here, others⟩ := List.forall_mem_cons.mp first
    rw [List.cons_append]
    cases op with
    | add => exact absurd rfl here.1
    | sub => exact absurd rfl here.2
    | mul => rw [sweep, sweep, hypothesis _ _ others]
    | div =>
      rw [sweep, sweep]
      split
      · exact hypothesis _ _ others
      · exact hypothesis _ _ others

theorem sweep_div (inverse : Bool) (term value : Scalar) {rest : List (Operation × Scalar)}
    (divisions : ∀ entry ∈ rest, entry.1 = .div) :
    sweep true 0 false (!inverse) (term / value) rest = term / sweep true 0 false inverse value rest := by
  induction rest generalizing inverse value with
  | nil =>
    rw [sweep, sweep, zero_add, zero_add]
    rfl
  | cons entry rest hypothesis =>
    obtain ⟨op, held⟩ := entry
    obtain ⟨first, others⟩ := List.forall_mem_cons.mp divisions
    obtain rfl : op = .div := first
    rw [sweep, sweep]
    cases inverse with
    | true =>
      have turned : term / value / held = term / (value * held) := div_div term value held
      simp only [Bool.not_true, Bool.and_false, Bool.false_eq_true, if_false, Bool.and_self, if_true, turned]
      exact hypothesis false (value * held) others
    | false =>
      have turned : term / value * held = term / (value / held) := by
        rw [div_div_eq_mul_div, div_mul_eq_mul_div]
      simp only [Bool.not_false, Bool.and_self, if_true, Bool.and_false, Bool.false_eq_true, if_false, turned]
      exact hypothesis true (value / held) others

theorem sweep_eq_zero (inverse : Bool) (value : Scalar) {rest : List (Operation × Scalar)}
    (divisions : ∀ entry ∈ rest, entry.1 = .div) (divisible : Divisible rest) :
    sweep true 0 false inverse value rest = 0 ↔ value = 0 := by
  induction rest generalizing inverse value with
  | nil =>
    rw [sweep, zero_add]
    rfl
  | cons entry rest hypothesis =>
    obtain ⟨op, held⟩ := entry
    obtain ⟨first, others⟩ := List.forall_mem_cons.mp divisions
    obtain ⟨nonzero, further⟩ := List.forall_mem_cons.mp divisible
    obtain rfl : op = .div := first
    have nonzero : held ≠ 0 := nonzero rfl
    rw [sweep]
    split
    · rw [hypothesis false _ others further, mul_eq_zero, or_iff_left nonzero]
    · rw [hypothesis true _ others further, div_eq_zero_iff, or_iff_left nonzero]

end Sweeps

/-! ### The readings are sweeps -/

section Values

variable [DecidableEq Scalar]

open Classical in
theorem leftValue_eq (sum : Scalar) (negative inverse : Bool) (term : Scalar)
    (rest : List (Operation × Scalar)) : leftValue sum (signed negative term) rest =
      if Divisible rest then some (sweep false sum negative inverse term rest) else none := by
  induction rest generalizing sum negative inverse term with
  | nil =>
    rw [leftValue, sweep, if_pos]
    exact fun entry member => absurd member List.not_mem_nil
  | cons entry rest hypothesis =>
    obtain ⟨op, value⟩ := entry
    rw [sweep.eq_def]
    cases op with
    | add =>
      rw [leftValue, divisible_cons]
      simp only [reduceCtorEq, false_implies, true_and]
      exact hypothesis _ false false value
    | sub =>
      rw [leftValue, divisible_cons]
      simp only [reduceCtorEq, false_implies, true_and]
      exact hypothesis _ true false value
    | mul =>
      rw [leftValue, divisible_cons, signed_mul]
      simp only [reduceCtorEq, false_implies, true_and]
      exact hypothesis ..
    | div =>
      rw [leftValue, divisible_cons, signed_div]
      simp only [true_implies, Bool.false_and, Bool.false_eq_true, if_false]
      by_cases zero : value = 0
      · rw [if_pos zero, if_neg fun both => both.1 zero]
      · rw [if_neg zero, hypothesis _ _ true]
        simp only [ne_eq, zero, not_false_eq_true, true_and]

open Classical in
theorem standardValue_eq (first : Scalar) (rest : List (Operation × Scalar)) : standardValue first rest =
    if Divisible rest then some (sweep false 0 false false first rest) else none :=
  leftValue_eq 0 false false first rest

theorem mem_operations (op : Operation) : op ∈ operations := by
  cases op <;> decide

theorem binds_of_suffix {op other : Operation} {others : List Operation} (known : op :: others <:+ operations)
    (member : other ∈ op :: others) :
    (op ≠ .add → other ≠ .add) ∧ (op ≠ .add → op ≠ .sub → other ≠ .sub) ∧ (op = .div → other = .div) := by
  cases op <;> simp [operations, List.suffix_cons_iff] at known <;> subst known <;> simp at member <;>
    simp [member]
  all_goals rcases member with rfl | rfl | rfl <;> decide

open Classical in
theorem applyOperation_sweep {op : Operation} {others : List Operation} (known : op :: others <:+ operations)
    {first value : Scalar} {before after : List (Operation × Scalar)}
    (inside : ∀ entry ∈ before ++ (op, value) :: after, entry.1 ∈ op :: others)
    (apart : ∀ entry ∈ before, entry.1 ≠ op) (divisible : Divisible after) :
    applyOperation (sweep true 0 false false first before) (sweep true 0 false false value after) op =
      if op = .div → value ≠ 0 then
        some (sweep true 0 false false first (before ++ (op, value) :: after))
      else none := by
  have early (entry : Operation × Scalar) (member : entry ∈ before) :=
    binds_of_suffix known (inside entry (List.mem_append_left _ member))
  have late (entry : Operation × Scalar) (member : entry ∈ after) :=
    binds_of_suffix known (inside entry (List.mem_append_right _ (List.mem_cons_of_mem _ member)))
  cases op with
  | add => rw [applyOperation, if_pos nofun, sweep_add]
  | sub =>
    rw [applyOperation, if_pos nofun, sweep_sub]
    · exact fun entry member => ⟨(early entry member).1 (by decide), apart entry member⟩
    · exact fun entry member => (late entry member).1 (by decide)
  | mul =>
    rw [applyOperation, if_pos nofun, sweep_mul]
    · exact fun entry member => ⟨(early entry member).1 (by decide), (early entry member).2.1 (by decide) (by decide)⟩
    · exact fun entry member => ⟨(late entry member).1 (by decide), (late entry member).2.1 (by decide) (by decide)⟩
  | div =>
    have divisions (entry : Operation × Scalar) (member : entry ∈ after) := (late entry member).2.2 rfl
    obtain rfl : before = [] := List.eq_nil_iff_forall_not_mem.mpr fun entry member =>
      apart entry member ((early entry member).2.2 rfl)
    have isZero := sweep_eq_zero false value divisions divisible
    rw [applyOperation]
    by_cases zero : value = 0
    · rw [if_pos (isZero.mpr zero), if_neg fun nonzero => nonzero rfl zero]
    · have turned := sweep_div false first value divisions
      rw [if_neg (mt isZero.mp zero), if_pos fun _ => zero, List.nil_append, sweep, sweep, zero_add]
      exact congrArg some turned.symm

open Classical in
theorem firstValue_eq_of_suffix (left : List Operation) (first : Scalar) (rest : List (Operation × Scalar))
    (known : left <:+ operations) (inside : ∀ entry ∈ rest, entry.1 ∈ left) : firstValue left first rest =
      if Divisible rest then some (sweep true 0 false false first rest) else none := by
  induction left, first, rest using firstValue.induct with
  | case1 first rest =>
    obtain rfl : rest = [] := List.eq_nil_iff_forall_not_mem.mpr fun entry member =>
      absurd (inside entry member) List.not_mem_nil
    rw [firstValue, sweep, zero_add, if_pos]
    · rfl
    · exact fun entry member => absurd member List.not_mem_nil
  | case2 first rest op others nowhere hypothesis =>
    rw [firstValue_of_none nowhere]
    refine hypothesis ((List.suffix_cons op others).trans known) fun entry member => ?_
    exact (List.mem_cons.mp (inside entry member)).resolve_left (splitFirst_eq_none nowhere entry member)
  | case3 first rest op others before value after found firstHypothesis secondHypothesis =>
    obtain ⟨rfl, apart⟩ := splitFirst_eq_some found
    have lhs := firstHypothesis List.suffix_rfl fun entry _ => mem_operations entry.1
    have rhs := secondHypothesis List.suffix_rfl fun entry _ => mem_operations entry.1
    rw [firstValue_of_some found, lhs, rhs, divisible_append, divisible_cons]
    by_cases early : Divisible before
    · by_cases late : Divisible after
      · rw [if_pos early, if_pos late, Option.bind_some, Option.bind_some,
          applyOperation_sweep known inside apart late]
        simp only [early, late, true_and, and_true]
      · simp only [early, late, and_false, if_false, Option.bind_none, Option.bind_some, if_true]
    · simp only [early, false_and, if_false, Option.bind_none]

open Classical in
theorem firstValue_eq (first : Scalar) (rest : List (Operation × Scalar)) : firstValue operations first rest =
    if Divisible rest then some (sweep true 0 false false first rest) else none :=
  firstValue_eq_of_suffix operations first rest List.suffix_rfl fun entry _ => mem_operations entry.1

end Values

/-! ### Where the readings agree -/

/-- No two subtractions without an addition between them, with one already behind the last addition. -/
def SubtractsOnce (negative : Bool) : List Operation → Prop
  | [] => True
  | .add :: rest => SubtractsOnce false rest
  | .sub :: rest => negative = false ∧ SubtractsOnce true rest
  | .mul :: rest | .div :: rest => SubtractsOnce negative rest

/-- No two divisions directly behind each other, with one already in front. -/
def DividesOnce (inverse : Bool) : List Operation → Prop
  | [] => True
  | .div :: rest => inverse = false ∧ DividesOnce true rest
  | .add :: rest | .sub :: rest | .mul :: rest => DividesOnce false rest

theorem sweep_eq_of_once (sum : Scalar) {negative inverse : Bool} (term : Scalar)
    {rest : List (Operation × Scalar)} (subtracts : SubtractsOnce negative (rest.map Prod.fst))
    (divides : DividesOnce inverse (rest.map Prod.fst)) :
    sweep true sum negative inverse term rest = sweep false sum negative inverse term rest := by
  induction rest generalizing sum negative inverse term with
  | nil => rfl
  | cons entry rest hypothesis =>
    obtain ⟨op, value⟩ := entry
    rw [sweep.eq_def, sweep.eq_def]
    cases op with
    | add => exact hypothesis _ _ subtracts divides
    | sub =>
      obtain ⟨rfl, subtracts⟩ := subtracts
      exact hypothesis _ _ subtracts divides
    | mul => exact hypothesis _ _ subtracts divides
    | div =>
      obtain ⟨rfl, divides⟩ := divides
      exact hypothesis _ _ subtracts divides

section Ones

/-- Ones between the operations. -/
def ones (ops : List Operation) : List (Operation × Scalar) :=
  ops.map fun op => (op, 1)

/-- Ones, but a two behind the first division that follows another one. -/
def onesAndTwo (inverse : Bool) : List Operation → List (Operation × Scalar)
  | [] => []
  | .div :: rest => if inverse then (.div, 2) :: ones rest else (.div, 1) :: onesAndTwo true rest
  | op :: rest => (op, 1) :: onesAndTwo false rest

theorem map_fst_ones (ops : List Operation) : (ones ops : List (Operation × Scalar)).map Prod.fst = ops := by
  rw [ones, List.map_map]
  exact List.map_id ops

theorem map_fst_onesAndTwo (inverse : Bool) (ops : List Operation) :
    (onesAndTwo inverse ops : List (Operation × Scalar)).map Prod.fst = ops := by
  induction ops generalizing inverse with
  | nil => rfl
  | cons op rest hypothesis =>
    cases op with
    | add | sub | mul => exact congrArg _ (hypothesis false)
    | div =>
      rw [onesAndTwo]
      split
      · exact congrArg _ (map_fst_ones rest)
      · exact congrArg _ (hypothesis true)

theorem mem_onesAndTwo {inverse : Bool} {ops : List Operation} {entry : Operation × Scalar}
    (member : entry ∈ onesAndTwo inverse ops) : entry.2 = 1 ∨ entry.2 = 2 := by
  have one {ops : List Operation} (member : entry ∈ ones ops) : entry.2 = 1 := by
    obtain ⟨op, -, rfl⟩ := List.mem_map.mp member
    rfl
  induction ops generalizing inverse with
  | nil => exact absurd member List.not_mem_nil
  | cons op rest hypothesis =>
    cases op with
    | add | sub | mul =>
      rcases List.mem_cons.mp member with rfl | member
      · exact Or.inl rfl
      · exact hypothesis member
    | div =>
      rw [onesAndTwo] at member
      split at member
      · rcases List.mem_cons.mp member with rfl | member
        · exact Or.inr rfl
        · exact Or.inl (one member)
      · rcases List.mem_cons.mp member with rfl | member
        · exact Or.inl rfl
        · exact hypothesis member

theorem sweep_ones_of_once {negative : Bool} {ops : List Operation} (subtracts : SubtractsOnce negative ops)
    (sum other term value : Scalar) (inverse inverted : Bool) :
    sweep true sum negative inverse term (ones ops) - sum - signed negative term =
      sweep false other negative inverted value (ones ops) - other - signed negative value := by
  induction ops generalizing negative sum other term value inverse inverted with
  | nil =>
    rw [ones, List.map_nil, sweep, sweep]
    ring
  | cons op rest hypothesis =>
    have cons (op : Operation) : (ones (op :: rest) : List (Operation × Scalar)) = (op, 1) :: ones rest := rfl
    rw [cons]
    cases op with
    | add =>
      have further := hypothesis subtracts (sum + signed negative term) (other + signed negative value)
        1 1 false false
      rw [sweep, sweep]
      linear_combination further
    | sub =>
      obtain ⟨rfl, subtracts⟩ := subtracts
      have further := hypothesis subtracts (sum + signed false term) (other + signed false value)
        1 1 false false
      rw [sweep, sweep]
      simp only [Bool.and_false, Bool.not_false]
      linear_combination further
    | mul =>
      rw [sweep, sweep, mul_one, mul_one]
      exact hypothesis subtracts ..
    | div =>
      rw [sweep, sweep]
      simp only [mul_one, div_one, Bool.false_and, Bool.false_eq_true, if_false]
      split
      · exact hypothesis subtracts ..
      · exact hypothesis subtracts ..

variable [LinearOrder Scalar] [IsStrictOrderedRing Scalar]

theorem neg_one_le_signed (negative : Bool) : (-1 : Scalar) ≤ signed negative 1 := by
  cases negative
  · exact neg_le_self zero_le_one
  · exact le_rfl

theorem sweep_ones_lt {sum other : Scalar} {negative negated : Bool} (inverse inverted : Bool)
    (ops : List Operation) (ahead : other + signed negated 1 < sum + signed negative 1) :
    sweep false other negated inverted 1 (ones ops) < sweep true sum negative inverse 1 (ones ops) := by
  induction ops generalizing sum other negative negated inverse inverted with
  | nil => exact ahead
  | cons op rest hypothesis =>
    have cons (op : Operation) : (ones (op :: rest) : List (Operation × Scalar)) = (op, 1) :: ones rest := rfl
    rw [cons, sweep.eq_def, sweep.eq_def]
    cases op with
    | add => exact hypothesis _ _ (by simpa using ahead)
    | sub =>
      refine hypothesis _ _ ?_
      have least : (-1 : Scalar) ≤ signed (!(true && negative)) 1 := neg_one_le_signed _
      have repeated : signed (!(false && negated)) (1 : Scalar) = -1 := rfl
      linarith
    | mul =>
      simp only [mul_one]
      exact hypothesis _ _ ahead
    | div =>
      simp only [mul_one, div_one, Bool.false_and, Bool.false_eq_true, if_false]
      split
      · exact hypothesis _ _ ahead
      · exact hypothesis _ _ ahead

theorem sweep_ones_lt_of_repeats {negative : Bool} {ops : List Operation}
    (repeats : ¬ SubtractsOnce negative ops) (sum : Scalar) (inverse inverted : Bool) :
    sweep false sum negative inverted 1 (ones ops) < sweep true sum negative inverse 1 (ones ops) := by
  induction ops generalizing sum negative inverse inverted with
  | nil => exact absurd trivial repeats
  | cons op rest hypothesis =>
    have cons (op : Operation) : (ones (op :: rest) : List (Operation × Scalar)) = (op, 1) :: ones rest := rfl
    rw [cons, sweep.eq_def, sweep.eq_def]
    cases op with
    | add => exact hypothesis repeats ..
    | sub =>
      cases negative with
      | false => exact hypothesis (fun once => repeats ⟨rfl, once⟩) ..
      | true =>
        -- the subtraction turns to an addition in one of them
        refine sweep_ones_lt _ _ rest (add_lt_add_right ?_ _)
        exact neg_lt_self zero_lt_one
    | mul =>
      simp only [mul_one]
      exact hypothesis repeats ..
    | div =>
      simp only [mul_one, div_one, Bool.false_and, Bool.false_eq_true, if_false]
      split
      · exact hypothesis repeats ..
      · exact hypothesis repeats ..

theorem sweep_two_ne_of_repeats {negative inverse : Bool} {ops : List Operation}
    (subtracts : SubtractsOnce negative ops) (repeats : ¬ DividesOnce inverse ops) (sum : Scalar) :
    sweep true sum negative inverse 1 (onesAndTwo inverse ops) ≠
      sweep false sum negative inverse 1 (onesAndTwo inverse ops) := by
  induction ops generalizing sum negative inverse with
  | nil => exact absurd trivial repeats
  | cons op rest hypothesis =>
    rw [onesAndTwo.eq_def]
    cases op with
    | add => exact hypothesis subtracts repeats _
    | sub =>
      obtain ⟨rfl, subtracts⟩ := subtracts
      exact hypothesis subtracts repeats _
    | mul =>
      dsimp only
      rw [sweep, sweep, mul_one]
      exact hypothesis subtracts repeats _
    | div =>
      cases inverse with
      | false =>
        dsimp only
        rw [if_neg Bool.false_ne_true, sweep, sweep, div_one]
        exact hypothesis subtracts (fun once => repeats ⟨rfl, once⟩) _
      | true =>
        dsimp only
        rw [if_pos rfl, sweep, sweep, one_mul]
        intro same
        have once : SubtractsOnce negative rest := subtracts
        have both := sweep_ones_of_once once sum sum (2 : Scalar) (1 / 2) false true
        simp only [Bool.and_self, if_true, Bool.false_and, Bool.false_eq_true, if_false] at same
        rw [same, sub_right_inj] at both
        cases negative <;> simp only [signed] at both <;> norm_num at both

end Ones

section Agreement

variable [LinearOrder Scalar] [IsStrictOrderedRing Scalar]

theorem firstValue_eq_standardValue (ops : List Operation) :
    (SubtractsOnce false ops ∧ DividesOnce false ops → ∀ (first : Scalar) rest, rest.map Prod.fst = ops →
      firstValue operations first rest = standardValue first rest) ∧
    (¬ (SubtractsOnce false ops ∧ DividesOnce false ops) → ∃ rest : List (Operation × Scalar),
      rest.map Prod.fst = ops ∧ (∀ entry ∈ rest, entry.2 = 1 ∨ entry.2 = 2) ∧
        firstValue operations 1 rest ≠ standardValue 1 rest) := by
  have divisible {rest : List (Operation × Scalar)} (small : ∀ entry ∈ rest, entry.2 = 1 ∨ entry.2 = 2) :
      Divisible rest := by
    intro entry member _
    rcases small entry member with one | two
    · rw [one]
      exact one_ne_zero
    · rw [two]
      exact two_ne_zero
  constructor
  · rintro ⟨subtracts, divides⟩ first rest rfl
    rw [firstValue_eq, standardValue_eq, sweep_eq_of_once 0 first subtracts divides]
  · intro repeats
    by_cases subtracts : SubtractsOnce false ops
    · have small (entry : Operation × Scalar) (member : entry ∈ onesAndTwo false ops) := mem_onesAndTwo member
      refine ⟨onesAndTwo false ops, map_fst_onesAndTwo false ops, small, ?_⟩
      rw [firstValue_eq, standardValue_eq, if_pos (divisible small), if_pos (divisible small), ne_eq,
        Option.some.injEq]
      exact sweep_two_ne_of_repeats subtracts (fun divides => repeats ⟨subtracts, divides⟩) 0
    · have small (entry : Operation × Scalar) (member : entry ∈ ones ops) : entry.2 = 1 ∨ entry.2 = 2 := by
        obtain ⟨op, -, rfl⟩ := List.mem_map.mp member
        exact Or.inl rfl
      refine ⟨ones ops, map_fst_ones ops, small, ?_⟩
      rw [firstValue_eq, standardValue_eq, if_pos (divisible small), if_pos (divisible small), ne_eq,
        Option.some.injEq]
      exact (sweep_ones_lt_of_repeats subtracts 0 false false).ne'

end Agreement

end FlatExpressions
