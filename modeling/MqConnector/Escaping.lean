/-
This file is a library about texts whose separators are escaped.

An escaper writes some symbols as a mark and a code. A reader cuts a text at the separators that
stand outside of escapes, and undoes the escapes in each piece.
-/

import Mathlib.Data.List.Basic

namespace Escaping

variable {Symbol : Type}

/-- Which symbols are written as the mark and a code, and how codes are read. The mark is one of them. -/
structure Escaper (Symbol : Type) where
  mark : Symbol
  code : Symbol → Option Symbol
  read : Symbol → Symbol
  code_mark : code mark ≠ none
  read_code : ∀ symbol written, code symbol = some written → read written = symbol

namespace Escaper

variable (escaper : Escaper Symbol)

def escapeOne (symbol : Symbol) : List Symbol :=
  match escaper.code symbol with
  | some written => [escaper.mark, written]
  | none => [symbol]

def escape (text : List Symbol) : List Symbol :=
  text.flatMap escaper.escapeOne

theorem escapeOne_of_code {symbol written : Symbol} (coded : escaper.code symbol = some written) :
    escaper.escapeOne symbol = [escaper.mark, written] := by
  rw [escapeOne, coded]

theorem escapeOne_of_plain {symbol : Symbol} (plain : escaper.code symbol = none) :
    escaper.escapeOne symbol = [symbol] := by
  rw [escapeOne, plain]

@[simp] theorem escape_cons (symbol : Symbol) (text : List Symbol) :
    escaper.escape (symbol :: text) = escaper.escapeOne symbol ++ escaper.escape text :=
  List.flatMap_cons

theorem escape_append (text other : List Symbol) :
    escaper.escape (text ++ other) = escaper.escape text ++ escaper.escape other :=
  List.flatMap_append

theorem escape_of_plain {text : List Symbol} (plain : ∀ symbol ∈ text, escaper.code symbol = none) :
    escaper.escape text = text := by
  induction text with
  | nil => rfl
  | cons symbol text hypothesis =>
    obtain ⟨here, further⟩ := List.forall_mem_cons.mp plain
    rw [escape_cons, hypothesis further, escapeOne_of_plain _ here]
    rfl

variable {escaper}

theorem ne_mark {symbol : Symbol} (plain : escaper.code symbol = none) : symbol ≠ escaper.mark := by
  rintro rfl
  exact escaper.code_mark plain

theorem mem_escape {symbol : Symbol} {text : List Symbol} (among : symbol ∈ escaper.escape text) :
    symbol ∈ text ∧ escaper.code symbol = none ∨ symbol = escaper.mark ∨
      ∃ other ∈ text, escaper.code other = some symbol := by
  obtain ⟨other, member, written⟩ := List.mem_flatMap.mp among
  cases coded : escaper.code other with
  | some code =>
    rw [escapeOne_of_code _ coded] at written
    rcases List.mem_cons.mp written with rfl | last
    · exact .inr (.inl rfl)
    · obtain rfl := List.mem_singleton.mp last
      exact .inr (.inr ⟨other, member, coded⟩)
  | none =>
    rw [escapeOne_of_plain _ coded] at written
    obtain rfl := List.mem_singleton.mp written
    exact .inl ⟨member, coded⟩

/-- Texts that are escaped, with separators between them. -/
def between (escaper : Escaper Symbol) (separator : Symbol) : List (List Symbol) → List Symbol
  | [] => []
  | [text] => escaper.escape text
  | text :: next :: rest => escaper.escape text ++ separator :: between escaper separator (next :: rest)

theorem length_le_between (separator : Symbol) (texts : List (List Symbol)) :
    texts.length ≤ (escaper.between separator texts).length + 1 := by
  induction texts with
  | nil => exact Nat.zero_le _
  | cons text texts hypothesis =>
    cases texts with
    | nil => exact Nat.le_add_left _ _
    | cons next rest =>
      rw [between, List.length_append, List.length_cons, @List.length_cons _ separator]
      omega

variable [DecidableEq Symbol]

/-! ### Undoing the escapes -/

/-- The text that was written. A mark at the end stands for itself. -/
def unescape (escaper : Escaper Symbol) : List Symbol → List Symbol
  | [] => []
  | [symbol] => [symbol]
  | symbol :: written :: rest =>
    if symbol = escaper.mark then escaper.read written :: unescape escaper rest
    else symbol :: unescape escaper (written :: rest)

theorem unescape_cons_of_ne {symbol : Symbol} (plain : symbol ≠ escaper.mark) (rest : List Symbol) :
    escaper.unescape (symbol :: rest) = symbol :: escaper.unescape rest := by
  cases rest with
  | nil => rfl
  | cons written rest => rw [unescape, if_neg plain]

theorem unescape_escape (text : List Symbol) : escaper.unescape (escaper.escape text) = text := by
  induction text with
  | nil => rfl
  | cons symbol text hypothesis =>
    rw [escape_cons]
    cases coded : escaper.code symbol with
    | some written =>
      rw [escapeOne_of_code _ coded]
      show escaper.unescape (escaper.mark :: written :: escaper.escape text) = _
      rw [unescape, if_pos rfl, hypothesis, escaper.read_code symbol written coded]
    | none =>
      rw [escapeOne_of_plain _ coded]
      show escaper.unescape (symbol :: escaper.escape text) = _
      rw [unescape_cons_of_ne (ne_mark coded), hypothesis]

/-! ### Cutting at a separator -/

/-- A text up to the first separator outside of escapes, and what follows that. -/
def cut (escaper : Escaper Symbol) (separator : Symbol) : List Symbol → Option (List Symbol × List Symbol)
  | [] => none
  | [symbol] => if symbol = separator then some ([], []) else none
  | symbol :: written :: rest =>
    if symbol = escaper.mark then
      (cut escaper separator rest).map fun pieces => (symbol :: written :: pieces.1, pieces.2)
    else if symbol = separator then some ([], written :: rest)
    else (cut escaper separator (written :: rest)).map fun pieces => (symbol :: pieces.1, pieces.2)

section Cut

variable {separator : Symbol}

theorem cut_mark (written : Symbol) (rest : List Symbol) :
    escaper.cut separator (escaper.mark :: written :: rest) =
      (escaper.cut separator rest).map fun pieces => (escaper.mark :: written :: pieces.1, pieces.2) :=
  if_pos rfl

theorem cut_cons_of_ne {symbol : Symbol} (plain : symbol ≠ escaper.mark) (other : symbol ≠ separator)
    (rest : List Symbol) : escaper.cut separator (symbol :: rest) =
      (escaper.cut separator rest).map fun pieces => (symbol :: pieces.1, pieces.2) := by
  cases rest with
  | nil => exact if_neg other
  | cons written rest => exact (if_neg plain).trans (if_neg other)

theorem cut_separator (apart : separator ≠ escaper.mark) (rest : List Symbol) :
    escaper.cut separator (separator :: rest) = some ([], rest) := by
  cases rest with
  | nil => exact if_pos rfl
  | cons written rest => exact (if_neg apart).trans (if_pos rfl)

theorem cut_escape_append (escaped : escaper.code separator ≠ none) (text rest : List Symbol) :
    escaper.cut separator (escaper.escape text ++ rest) =
      (escaper.cut separator rest).map fun pieces => (escaper.escape text ++ pieces.1, pieces.2) := by
  induction text with
  | nil =>
    show escaper.cut separator rest = (escaper.cut separator rest).map id
    rw [Option.map_id, id]
  | cons symbol text hypothesis =>
    rw [escape_cons]
    cases coded : escaper.code symbol with
    | some written =>
      rw [escapeOne_of_code _ coded]
      show escaper.cut separator (escaper.mark :: written :: (escaper.escape text ++ rest)) = _
      rw [cut_mark, hypothesis, Option.map_map]
      rfl
    | none =>
      have other : symbol ≠ separator := by
        rintro rfl
        exact escaped coded
      rw [escapeOne_of_plain _ coded]
      show escaper.cut separator (symbol :: (escaper.escape text ++ rest)) = _
      rw [cut_cons_of_ne (ne_mark coded) other, hypothesis, Option.map_map]
      rfl

theorem cut_escape (escaped : escaper.code separator ≠ none) (text : List Symbol) :
    escaper.cut separator (escaper.escape text) = none := by
  have whole := cut_escape_append escaped text []
  rwa [List.append_nil, show escaper.cut separator [] = none from rfl, Option.map_none] at whole

theorem cut_escape_separator (escaped : escaper.code separator ≠ none) (apart : separator ≠ escaper.mark)
    (text rest : List Symbol) :
    escaper.cut separator (escaper.escape text ++ separator :: rest) = some (escaper.escape text, rest) := by
  rw [cut_escape_append escaped, cut_separator apart, Option.map_some, List.append_nil]

/-! ### The pieces of a text -/

/-- The pieces of a text that is cut this often at most. -/
def pieces (escaper : Escaper Symbol) (separator : Symbol) : Nat → List Symbol → List (List Symbol)
  | 0, text => [text]
  | count + 1, text =>
    match escaper.cut separator text with
    | none => [text]
    | some (first, rest) => first :: pieces escaper separator count rest

/-- Texts that are escaped and joined, with another text after them. -/
def joined (escaper : Escaper Symbol) (separator : Symbol) (texts : List (List Symbol)) (rest : List Symbol) :
    List Symbol :=
  texts.foldr (fun text after => escaper.escape text ++ separator :: after) rest

theorem pieces_joined (escaped : escaper.code separator ≠ none) (apart : separator ≠ escaper.mark)
    (texts : List (List Symbol)) (count : Nat) (rest : List Symbol) :
    escaper.pieces separator (texts.length + count) (escaper.joined separator texts rest) =
      texts.map escaper.escape ++ escaper.pieces separator count rest := by
  induction texts with
  | nil =>
    rw [List.length_nil, Nat.zero_add]
    rfl
  | cons text texts hypothesis =>
    rw [List.length_cons, Nat.add_right_comm, pieces]
    show (match escaper.cut separator (escaper.escape text ++ separator :: escaper.joined separator texts rest) with
      | none => _
      | some (first, rest) => first :: escaper.pieces separator (texts.length + count) rest) = _
    rw [cut_escape_separator escaped apart]
    dsimp only
    rw [hypothesis]
    rfl

theorem pieces_escape (escaped : escaper.code separator ≠ none) (text : List Symbol) (count : Nat) :
    escaper.pieces separator count (escaper.escape text) = [escaper.escape text] := by
  cases count with
  | zero => rfl
  | succ count => rw [pieces, cut_escape escaped]

theorem pieces_between (escaped : escaper.code separator ≠ none) (apart : separator ≠ escaper.mark)
    {texts : List (List Symbol)} (nonempty : texts ≠ []) {count : Nat} (enough : texts.length ≤ count + 1) :
    escaper.pieces separator count (escaper.between separator texts) = texts.map escaper.escape := by
  induction texts generalizing count with
  | nil => exact absurd rfl nonempty
  | cons text texts hypothesis =>
    cases texts with
    | nil => exact pieces_escape escaped text count
    | cons next rest =>
      rw [List.length_cons] at enough
      cases count with
      | zero => exact absurd (Nat.le_of_succ_le_succ enough) (Nat.not_succ_le_zero _)
      | succ count =>
        rw [between, pieces, cut_escape_separator escaped apart]
        dsimp only
        rw [hypothesis (List.cons_ne_nil _ _) (Nat.le_of_succ_le_succ enough)]
        rfl

end Cut

end Escaper

/-! ### The last separator -/

section Last

variable [DecidableEq Symbol]

/-- A text before its last separator, and after it. -/
def cutLast (separator : Symbol) (text : List Symbol) : List Symbol × List Symbol :=
  ((text.reverse.dropWhile (· ≠ separator)).tail.reverse, (text.reverse.takeWhile (· ≠ separator)).reverse)

theorem cutLast_append {separator : Symbol} {last : List Symbol} (clean : separator ∉ last)
    (first : List Symbol) :
    cutLast separator (first ++ separator :: last) = (first, last) := by
  have others : ∀ symbol ∈ last.reverse, decide (symbol ≠ separator) = true := by
    intro symbol member
    refine decide_eq_true ?_
    rintro rfl
    exact clean (List.mem_reverse.mp member)
  have turned : (first ++ separator :: last).reverse = last.reverse ++ separator :: first.reverse := by
    rw [List.reverse_append, List.reverse_cons, List.append_assoc, List.singleton_append]
  rw [cutLast, turned, List.dropWhile_append_of_pos others, List.takeWhile_append_of_pos others]
  simp

end Last

end Escaping
