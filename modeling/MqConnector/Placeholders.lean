/-
This file asks whether the statements for Postgres get the placeholders that they are written with.

A statement is a row of bytes outside of quotes and of quoted texts, in which the quote is doubled.
Both scanners read the quotes as SQL does, and number every question mark outside of them.
-/

import Mathlib.Data.List.Chain
import MqConnector.Leadership
import MqConnector.Utf8

namespace MqConnector

/-- `$`, and the number of a placeholder. -/
def placeholder (idx : Nat) : Bytes :=
  36 :: Utf8.encode (Nat.toDigits 10 idx)

/-- The variables of the scan of a statement. -/
structure StatementScan where
  b : Bytes := []
  idx : Nat := 1
  inSingle : Bool := false
  inDouble : Bool := false

/-- One round of the loop of `rewritePlaceholders`. -/
def StatementScan.next (scan : StatementScan) (c : UInt8) : StatementScan :=
  if c = 39 ∧ scan.inDouble = false then { scan with inSingle := !scan.inSingle, b := scan.b ++ [c] }
  else if c = 34 ∧ scan.inSingle = false then { scan with inDouble := !scan.inDouble, b := scan.b ++ [c] }
  else if c = 63 ∧ scan.inSingle = false ∧ scan.inDouble = false then
    { scan with b := scan.b ++ placeholder scan.idx, idx := scan.idx + 1 }
  else { scan with b := scan.b ++ [c] }

/-- `rewritePlaceholders` of the storage. -/
def rewritePlaceholders (sql : Bytes) (dialect : Dialect) : Bytes :=
  if dialect ≠ .postgres then sql else (sql.foldl StatementScan.next {}).b

/-- One round of the loop of `Lease.rewrite`. -/
def Lease.rewriteNext (scan : StatementScan) (c : UInt8) : StatementScan :=
  if c = 39 ∧ scan.inDouble = false then { scan with inSingle := !scan.inSingle, b := scan.b ++ [c] }
  else if c = 34 ∧ scan.inSingle = false then { scan with inDouble := !scan.inDouble, b := scan.b ++ [c] }
  else if c = 63 ∧ scan.inSingle = false ∧ scan.inDouble = false then
    { scan with b := scan.b ++ placeholder scan.idx, idx := scan.idx + 1 }
  else { scan with b := scan.b ++ [c] }

/-- `rewrite` of the leadership. -/
def Lease.rewrite (dialect : Dialect) (sql : Bytes) : Bytes :=
  if dialect ≠ .postgres then sql else (sql.foldl Lease.rewriteNext {}).b

theorem Lease.rewrite_eq (dialect : Dialect) (sql : Bytes) :
    Lease.rewrite dialect sql = rewritePlaceholders sql dialect :=
  rfl

/-! ### Statements -/

inductive Quote
  | single | double
  deriving DecidableEq

def Quote.byte : Quote → UInt8
  | .single => 39
  | .double => 34

/-- A byte outside of quotes, or a quoted text. -/
inductive SqlPart
  | bare (byte : UInt8) (plain : ∀ quote : Quote, byte ≠ quote.byte)
  | quoted (quote : Quote) (content : Bytes)

namespace SqlPart

/-- The quote is doubled in a quoted text. -/
def doubled (quote : Quote) (content : Bytes) : Bytes :=
  content.flatMap fun byte => if byte = quote.byte then [byte, byte] else [byte]

def text : SqlPart → Bytes
  | .bare byte _ => [byte]
  | .quoted quote content => quote.byte :: (doubled quote content ++ [quote.byte])

def isMark : SqlPart → Bool
  | .bare byte _ => byte = 63
  | .quoted _ _ => false

end SqlPart

/-- The text of a statement with balanced quotes. -/
def sqlText (parts : List SqlPart) : Bytes :=
  parts.flatMap SqlPart.text

/-- What is promised: a question mark with none beside it gets the next number, and all else stays. -/
def numbered (behind : Bool) (idx : Nat) : List SqlPart → Bytes
  | [] => []
  | part :: rest =>
    if part.isMark = true ∧ behind = false ∧ ¬ (∃ next ∈ rest.head?, next.isMark = true) then
      placeholder idx ++ numbered part.isMark (idx + 1) rest
    else part.text ++ numbered part.isMark idx rest

def MarksApart (parts : List SqlPart) : Prop :=
  parts.IsChain fun first second => ¬ (first.isMark = true ∧ second.isMark = true)

/-- The statement is rewritten as promised, by both scanners. -/
structure RewritesExactly (parts : List SqlPart) : Prop where
  storage : rewritePlaceholders (sqlText parts) .postgres = numbered false 1 parts
  lease : Lease.rewrite .postgres (sqlText parts) = rewritePlaceholders (sqlText parts) .postgres

/-! ### What the scanner writes -/

/-- Every question mark outside of quotes is numbered. -/
def numberedAll (idx : Nat) : List SqlPart → Bytes
  | [] => []
  | part :: rest =>
    if part.isMark = true then placeholder idx ++ numberedAll (idx + 1) rest
    else part.text ++ numberedAll idx rest

section Scan

variable (b : Bytes) (idx : Nat)

theorem foldl_doubled (quote : Quote) (content : Bytes) :
    (SqlPart.doubled quote content).foldl StatementScan.next
        { b, idx, inSingle := quote = .single, inDouble := quote = .double } =
      { b := b ++ SqlPart.doubled quote content, idx, inSingle := quote = .single, inDouble := quote = .double } := by
  induction content generalizing b with
  | nil => rw [SqlPart.doubled, List.flatMap_nil, List.foldl_nil, List.append_nil]
  | cons byte content hypothesis =>
    rw [SqlPart.doubled, List.flatMap_cons, ← SqlPart.doubled, List.foldl_append]
    have first : (if byte = quote.byte then [byte, byte] else [byte]).foldl StatementScan.next
        { b, idx, inSingle := quote = .single, inDouble := quote = .double } =
        { b := b ++ (if byte = quote.byte then [byte, byte] else [byte]), idx, inSingle := quote = .single,
          inDouble := quote = .double } := by
      split
      case isTrue same =>
        subst same
        cases quote <;> simp [StatementScan.next, Quote.byte]
      case isFalse other => cases quote <;> simp_all [StatementScan.next, Quote.byte]
    rw [first, hypothesis, List.append_assoc]

theorem foldl_text (part : SqlPart) :
    part.text.foldl StatementScan.next { b, idx } =
      if part.isMark = true then { b := b ++ placeholder idx, idx := idx + 1 } else { b := b ++ part.text, idx } := by
  cases part with
  | bare byte plain =>
    have single : byte ≠ 39 := plain .single
    have double : byte ≠ 34 := plain .double
    by_cases mark : byte = 63
    · simp [SqlPart.text, SqlPart.isMark, StatementScan.next, mark]
    · simp [SqlPart.text, SqlPart.isMark, StatementScan.next, mark, single, double]
  | quoted quote content =>
    have opens : StatementScan.next { b, idx } quote.byte =
        { b := b ++ [quote.byte], idx, inSingle := quote = .single, inDouble := quote = .double } := by
      cases quote <;> simp [StatementScan.next, Quote.byte]
    have closes (b : Bytes) : StatementScan.next
        { b, idx, inSingle := quote = .single, inDouble := quote = .double } quote.byte =
          { b := b ++ [quote.byte], idx } := by
      cases quote <;> simp [StatementScan.next, Quote.byte]
    rw [SqlPart.text, List.foldl_cons, opens, List.foldl_append, foldl_doubled, List.foldl_cons, closes, List.foldl_nil,
      SqlPart.isMark, if_neg Bool.false_ne_true, List.append_assoc, List.append_assoc, List.singleton_append]

theorem foldl_sqlText (parts : List SqlPart) :
    ((sqlText parts).foldl StatementScan.next { b, idx }).b = b ++ numberedAll idx parts := by
  induction parts generalizing b idx with
  | nil => rw [sqlText, List.flatMap_nil, List.foldl_nil, numberedAll, List.append_nil]
  | cons part rest hypothesis =>
    rw [sqlText, List.flatMap_cons, ← sqlText, List.foldl_append, foldl_text, numberedAll]
    split
    · rw [hypothesis, List.append_assoc]
    · rw [hypothesis, List.append_assoc]

end Scan

theorem rewritePlaceholders_eq (parts : List SqlPart) :
    rewritePlaceholders (sqlText parts) .postgres = numberedAll 1 parts := by
  rw [rewritePlaceholders, if_neg (not_not_intro rfl), foldl_sqlText, List.nil_append]

/-! ### Question marks in a row -/

/-- The bytes outside of placeholders. -/
def outside (parts : List SqlPart) : Bytes :=
  (parts.filter fun part => !part.isMark).flatMap SqlPart.text

section Rows

variable {behind : Bool} {idx : Nat} {parts : List SqlPart}

theorem count_placeholder (idx : Nat) : (placeholder idx).count 63 = 0 := by
  rw [List.count_eq_zero, placeholder, List.mem_cons, not_or]
  refine ⟨by decide, fun member => ?_⟩
  rw [@Utf8.mem_encode_iff 63 '?' (by decide) (by decide)] at member
  exact absurd (Nat.isDigit_of_mem_toDigits (by decide) (by decide) member) (by decide)

theorem count_outside_cons (part : SqlPart) (rest : List SqlPart) :
    (outside (part :: rest)).count 63 = (if part.isMark = true then 0 else part.text.count 63) + (outside rest).count 63 := by
  rw [outside, List.filter_cons]
  cases part.isMark with
  | true => simp [outside]
  | false => simp [outside, List.count_append]

theorem count_numberedAll : (numberedAll idx parts).count 63 = (outside parts).count 63 := by
  induction parts generalizing idx with
  | nil => rfl
  | cons part rest hypothesis =>
    rw [numberedAll, count_outside_cons]
    split
    · rw [List.count_append, count_placeholder, hypothesis]
    · rw [List.count_append, hypothesis]

theorem count_numbered_cons (part : SqlPart) (rest : List SqlPart) : ∃ later,
    (if part.isMark = true then 0 else part.text.count 63) + (numbered part.isMark later rest).count 63 ≤
      (numbered behind idx (part :: rest)).count 63 := by
  rw [numbered]
  by_cases replaced : part.isMark = true ∧ behind = false ∧ ¬ (∃ next ∈ rest.head?, next.isMark = true)
  · refine ⟨idx + 1, ?_⟩
    rw [if_pos replaced, if_pos replaced.1, List.count_append, count_placeholder]
  · refine ⟨idx, ?_⟩
    rw [if_neg replaced, List.count_append]
    refine Nat.add_le_add_right ?_ _
    split
    · exact Nat.zero_le _
    · exact Nat.le_refl _

theorem count_outside_le : (outside parts).count 63 ≤ (numbered behind idx parts).count 63 := by
  induction parts generalizing behind idx with
  | nil => exact Nat.zero_le _
  | cons part rest hypothesis =>
    obtain ⟨later, bound⟩ := @count_numbered_cons behind idx part rest
    rw [count_outside_cons]
    exact (Nat.add_le_add_left hypothesis _).trans bound

/-- Marks that stand apart are all numbered. -/
theorem numbered_eq (apart : MarksApart parts)
    (alone : behind = true → ∀ next ∈ parts.head?, next.isMark = false) :
    numbered behind idx parts = numberedAll idx parts := by
  induction parts generalizing behind idx with
  | nil => rfl
  | cons part rest hypothesis =>
    have further : part.isMark = true → ∀ next ∈ rest.head?, next.isMark = false := by
      intro mark next first
      cases rest with
      | nil => cases first
      | cons second rest =>
        obtain rfl := Option.some.inj first
        have differ := (List.isChain_cons_cons.mp apart).1
        exact Bool.eq_false_iff.mpr fun also => differ ⟨mark, also⟩
    rw [numbered, numberedAll, hypothesis apart.tail further, hypothesis apart.tail further]
    by_cases mark : part.isMark = true
    · have first : behind = false := by
        refine Bool.eq_false_iff.mpr fun follows => ?_
        exact Bool.false_ne_true ((alone follows part rfl).symm.trans mark)
      rw [if_pos mark, if_pos]
      refine ⟨mark, first, ?_⟩
      rintro ⟨next, there, also⟩
      exact Bool.false_ne_true ((further mark next there).symm.trans also)
    · rw [if_neg mark, if_neg fun replaced => mark replaced.1]

/-- A pair of marks stays in the promised text. -/
theorem count_outside_lt (pair : ¬ MarksApart parts) :
    (outside parts).count 63 < (numbered behind idx parts).count 63 := by
  induction parts generalizing behind idx with
  | nil => exact absurd .nil pair
  | cons part rest hypothesis =>
    cases rest with
    | nil => exact absurd (.singleton part) pair
    | cons second rest =>
      by_cases both : part.isMark = true ∧ second.isMark = true
      · have stays : part.text.count 63 = 1 := by
          cases part with
          | bare byte plain =>
            obtain rfl : byte = 63 := of_decide_eq_true both.1
            rfl
          | quoted => exact absurd both.1 Bool.false_ne_true
        rw [numbered, count_outside_cons, if_pos both.1, if_neg fun replaced => replaced.2.2 ⟨second, rfl, both.2⟩,
          List.count_append, stays]
        exact Nat.add_lt_add_of_lt_of_le Nat.one_pos count_outside_le
      · have later : ¬ MarksApart (second :: rest) := fun apart => pair (List.isChain_cons_cons.mpr ⟨both, apart⟩)
        obtain ⟨idx', bound⟩ := @count_numbered_cons behind idx part (second :: rest)
        rw [count_outside_cons]
        exact lt_of_lt_of_le (Nat.add_lt_add_left (hypothesis later) _) bound

end Rows

/-- Statements are rewritten as the dialect asks exactly where no two question marks stand side by side.
-/
theorem rewritesExactly_iff (parts : List SqlPart) : RewritesExactly parts ↔ MarksApart parts := by
  constructor
  · intro exact_
    by_contra pair
    have counts := congrArg (List.count 63) exact_.storage
    rw [rewritePlaceholders_eq, count_numberedAll] at counts
    exact absurd counts (count_outside_lt pair).ne
  · intro apart
    refine ⟨?_, Lease.rewrite_eq _ _⟩
    rw [rewritePlaceholders_eq, numbered_eq apart fun follows => absurd follows Bool.false_ne_true]

def questionMark : SqlPart :=
  .bare 63 fun quote => by cases quote <;> decide

/-- Of `??` each mark is numbered. -/
theorem doubled_mark_numbered : ¬ ∀ parts : List SqlPart, RewritesExactly parts := by
  intro claimed
  have same := (claimed [questionMark, questionMark]).storage
  rw [rewritePlaceholders_eq] at same
  exact absurd same (by decide)

end MqConnector
