/-
This file develops recursive descent on lists of tokens, for any tokens and any values.

A parser reads a value from the front of the tokens or fails. Two loops are common to such
parsers: operands with operators between them, combined to the left, and items with
separators between them.
-/

import Mathlib.Data.List.Basic

namespace Parsing

variable {Token Operator Value Failure : Type}

/-- A parser gives a value and the tokens it has not read, or a failure. -/
abbrev Parser (Token Failure Value : Type) :=
  List Token → Except Failure (Value × List Token)

theorem bind_eq_ok {Result : Type} {first : Except Failure Value} {next : Value → Except Failure Result}
    {result : Result} :
    (first >>= next) = .ok result ↔ ∃ value, first = .ok value ∧ next value = .ok result := by
  cases first with
  | error failure =>
    refine iff_of_false ?_ ?_
    · intro same
      cases same
    · rintro ⟨value, same, -⟩
      cases same
  | ok value =>
    constructor
    · exact fun same => ⟨value, rfl, same⟩
    · rintro ⟨other, same, result⟩
      cases same
      exact result

/-- The parser reads only what is related to the value it gives. -/
def Sound (parser : Parser Token Failure Value) (related : List Token → Value → Prop) : Prop :=
  ∀ tokens value rest, parser tokens = .ok (value, rest) →
    ∃ used, tokens = used ++ rest ∧ related used value

/-! ### Operands and operators -/

section Chain

variable (operator : Token → Option Operator) (combine : Operator → Value → Value → Value)

/-- The operators and operands that follow a left operand, combined to the left. -/
inductive Chain (related : List Token → Value → Prop) : Value → List Token → Value → Prop
  | done (left : Value) : Chain related left [] left
  | step {left right value : Value} {token : Token} {found : Operator} {used rest : List Token}
      (operates : operator token = some found) (operand : related used right)
      (further : Chain related (combine found left right) rest value) :
      Chain related left (token :: (used ++ rest)) value

/-- The loop that reads them; its bound is not less than the number of tokens. -/
def chain (operand : Parser Token Failure Value) : Nat → Value → Parser Token Failure Value
  | 0, left, tokens => .ok (left, tokens)
  | _ + 1, left, [] => .ok (left, [])
  | bound + 1, left, token :: tokens =>
    match operator token with
    | none => .ok (left, token :: tokens)
    | some found => do
      let (right, rest) ← operand tokens
      chain operand bound (combine found left right) rest

variable {operator combine} {operand : Parser Token Failure Value}

theorem chain_sound {related : List Token → Value → Prop} (sound : Sound operand related)
    (bound : Nat) (left : Value) :
    Sound (chain operator combine operand bound left) (Chain operator combine related left) := by
  intro tokens
  induction bound generalizing left tokens with
  | zero =>
    intro value rest read
    obtain ⟨rfl, rfl⟩ := Prod.mk.inj (Except.ok.inj read)
    exact ⟨[], rfl, .done _⟩
  | succ bound hypothesis =>
    intro value rest read
    cases tokens with
    | nil =>
      obtain ⟨rfl, rfl⟩ := Prod.mk.inj (Except.ok.inj read)
      exact ⟨[], rfl, .done _⟩
    | cons token tokens =>
      rw [chain] at read
      split at read
      · obtain ⟨rfl, rfl⟩ := Prod.mk.inj (Except.ok.inj read)
        exact ⟨[], rfl, .done _⟩
      · rename_i found operates
        obtain ⟨⟨right, middle⟩, operandRead, further⟩ := bind_eq_ok.mp read
        obtain ⟨used, rfl, known⟩ := sound _ _ _ operandRead
        obtain ⟨others, rfl, chained⟩ := hypothesis _ _ _ _ further
        refine ⟨token :: (used ++ others), ?_, .step operates known chained⟩
        rw [List.cons_append, List.append_assoc]

theorem chain_done {bound : Nat} {left : Value} {tokens : List Token}
    (ends : ∀ token ∈ tokens.head?, operator token = none) :
    chain operator combine operand bound left tokens = .ok (left, tokens) := by
  cases bound with
  | zero => rfl
  | succ bound =>
    cases tokens with
    | nil => rfl
    | cons token tokens => rw [chain, ends token rfl]

theorem chain_step {bound : Nat} {left right : Value} {token : Token} {found : Operator}
    {tokens rest : List Token} (operates : operator token = some found)
    (read : operand tokens = .ok (right, rest)) :
    chain operator combine operand (bound + 1) left (token :: tokens) =
      chain operator combine operand bound (combine found left right) rest := by
  rw [chain, operates]
  show (operand tokens >>= _) = _
  rw [read]
  rfl

end Chain

/-! ### Items and separators -/

section Separated

variable (separator : Token → Bool)

/-- One item or more, with separators between them. -/
inductive Separated (related : List Token → Value → Prop) : List Token → List Value → Prop
  | one {used : List Token} {value : Value} (item : related used value) :
      Separated related used [value]
  | more {used rest : List Token} {token : Token} {value : Value} {values : List Value}
      (item : related used value) (separates : separator token = true)
      (further : Separated related rest values) :
      Separated related (used ++ token :: rest) (value :: values)

/-- The loop that reads them; its bound is not less than the number of tokens. -/
def separated (item : Parser Token Failure Value) : Nat → Parser Token Failure (List Value)
  | 0, tokens => do
    let (value, rest) ← item tokens
    .ok ([value], rest)
  | bound + 1, tokens => do
    let (value, rest) ← item tokens
    match rest with
    | [] => .ok ([value], [])
    | token :: others =>
      if separator token then do
        let (values, rest) ← separated item bound others
        .ok (value :: values, rest)
      else .ok ([value], token :: others)

variable {separator} {item : Parser Token Failure Value}

theorem separated_sound {related : List Token → Value → Prop} (sound : Sound item related)
    (bound : Nat) : Sound (separated separator item bound) (Separated separator related) := by
  intro tokens
  induction bound generalizing tokens with
  | zero =>
    intro values rest read
    obtain ⟨⟨value, middle⟩, itemRead, same⟩ := bind_eq_ok.mp read
    obtain ⟨rfl, rfl⟩ := Prod.mk.inj (Except.ok.inj same)
    obtain ⟨used, rfl, known⟩ := sound _ _ _ itemRead
    exact ⟨used, rfl, .one known⟩
  | succ bound hypothesis =>
    intro values rest read
    obtain ⟨⟨value, middle⟩, itemRead, further⟩ := bind_eq_ok.mp read
    obtain ⟨used, rfl, known⟩ := sound _ _ _ itemRead
    dsimp only at further
    split at further
    · obtain ⟨rfl, rfl⟩ := Prod.mk.inj (Except.ok.inj further)
      exact ⟨used, rfl, .one known⟩
    · rename_i token others
      split at further
      · rename_i separates
        obtain ⟨⟨others', last⟩, othersRead, same⟩ := bind_eq_ok.mp further
        obtain ⟨rfl, rfl⟩ := Prod.mk.inj (Except.ok.inj same)
        obtain ⟨usedLater, rfl, knownLater⟩ := hypothesis _ _ _ othersRead
        refine ⟨used ++ token :: usedLater, ?_, .more known separates knownLater⟩
        rw [List.append_assoc, List.cons_append]
      · obtain ⟨rfl, rfl⟩ := Prod.mk.inj (Except.ok.inj further)
        exact ⟨used, rfl, .one known⟩

theorem separated_one {bound : Nat} {tokens rest : List Token} {value : Value}
    (read : item tokens = .ok (value, rest)) (ends : ∀ token ∈ rest.head?, separator token = false) :
    separated separator item bound tokens = .ok ([value], rest) := by
  cases bound with
  | zero =>
    rw [separated, read]
    rfl
  | succ bound =>
    rw [separated, read]
    cases rest with
    | nil => rfl
    | cons token others =>
      show (if separator token = true then _ else _) = _
      rw [ends token rfl]
      rfl

theorem separated_more {bound : Nat} {tokens others rest : List Token} {token : Token} {value : Value}
    {values : List Value} (read : item tokens = .ok (value, token :: others))
    (separates : separator token = true)
    (further : separated separator item bound others = .ok (values, rest)) :
    separated separator item (bound + 1) tokens = .ok (value :: values, rest) := by
  rw [separated, read]
  show (if separator token = true then _ else _) = _
  rw [if_pos separates, further]
  rfl

theorem separated_complete {related : List Token → Value → Prop}
    (complete : ∀ used value rest, related used value → item (used ++ rest) = .ok (value, rest))
    {tokens rest : List Token} {values : List Value}
    (known : Separated separator related tokens values)
    (ends : ∀ token ∈ rest.head?, separator token = false) {bound : Nat}
    (enough : (tokens ++ rest).length ≤ bound) :
    separated separator item bound (tokens ++ rest) = .ok (values, rest) := by
  induction known generalizing bound with
  | one itemKnown => exact separated_one (complete _ _ _ itemKnown) ends
  | @more used others token value values itemKnown separates _ hypothesis =>
    rw [List.append_assoc, List.cons_append] at enough ⊢
    rw [List.length_append, List.length_cons] at enough
    obtain ⟨bound, rfl⟩ := Nat.exists_eq_add_one_of_ne_zero (show bound ≠ 0 by omega)
    exact separated_more (complete _ _ _ itemKnown) separates (hypothesis (by omega))

end Separated

end Parsing
