/-
This file prints expressions and asks whether the printed text parses to the expression.

A tree is printed as tokens with a space behind each of them: every operand and every
argument in parentheses, strings with their quotes and backslashes escaped, numbers as
some literal.
-/

import MqConnector.Grammar

namespace MqConnector

namespace Slo

open Parsing

variable {Value : Type}

/-! ### Spelling -/

/-- A token without its position. -/
abbrev Lexeme := TokenKind × String

/-- A token without its place. -/
def Token.lexeme (token : Token) : Lexeme :=
  (token.kind, token.text)

/-- A text with its quotes and backslashes escaped. -/
def escape (text : List Char) : List Char :=
  text.flatMap fun char => if char = '"' ∨ char = '\\' then ['\\', char] else [char]

/-- The letters of a lexeme. -/
def spell (lexeme : Lexeme) : List Char :=
  if lexeme.1 = .string then '"' :: (escape lexeme.2.toList ++ ['"']) else lexeme.2.toList

/-- Tokens with a space behind each of them. -/
def layout (lexemes : List Lexeme) : List Char :=
  lexemes.flatMap fun lexeme => spell lexeme ++ [' ']

/-! ### Printing -/

/-- Lexemes between parentheses. -/
def inParens (lexemes : List Lexeme) : List Lexeme :=
  (.lParen, "(") :: (lexemes ++ [(.rParen, ")")])

/-- Lists of tokens with commas between them. -/
def withCommas : List (List Lexeme) → List Lexeme
  | [] => []
  | [item] => item
  | item :: next :: rest => item ++ (.comma, ",") :: withCommas (next :: rest)

/-- An operator: the keywords are names. -/
def operatorLexeme (operator : OperatorToken) : Lexeme :=
  if operator.1 = .eof then (.ident, operator.2) else operator

def labelsLexemes (labels : List String) : List Lexeme :=
  if labels = [] then []
  else (.ident, "by") :: inParens (withCommas (labels.map fun label => [(.ident, label)]))

def matcherLexemes (entry : String × String) : List Lexeme :=
  [(.ident, entry.1), (.assign, "="), (.string, entry.2)]

/-- A name with its matchers and range. -/
def selectorLexemes (selector : VectorSelector) : List Lexeme :=
  (.ident, selector.name) ::
    ((if selector.matchers.toList = [] then []
      else (.lBrace, "\x7b") :: (withCommas (selector.matchers.toList.map matcherLexemes) ++
        [(.rBrace, "\x7d")])) ++
    (if selector.duration = "" then []
      else [(.lBracket, "["), (.duration, selector.duration), (.rBracket, "]")]))

mutual

/-- The tokens of a tree; `literal` gives the text of a number. -/
def lexemes (literal : Value → String) : AstNode Value → List Lexeme
  | .number value => [(.number, literal value)]
  | .vectorSelector selector => selectorLexemes selector
  | .binary op opString lhs rhs =>
    inParens (lexemes literal lhs) ++ operatorLexeme (op, opString) :: inParens (lexemes literal rhs)
  | .unaryMinus inner => (.minus, "-") :: inParens (lexemes literal inner)
  | .funcCall name args byLabels =>
    (.ident, name) :: (inParens (withCommas (argsLexemes literal args)) ++ labelsLexemes byLabels)

def argsLexemes (literal : Value → String) : List (AstNode Value) → List (List Lexeme)
  | [] => []
  | arg :: rest => inParens (lexemes literal arg) :: argsLexemes literal rest

end

/-- The text of a tree. -/
def print (literal : Value → String) (node : AstNode Value) : String :=
  String.ofList (layout (lexemes literal node))

/-! ### Trees that can be printed -/

/-- A text that is read as one name. -/
def IsName (text : String) : Prop :=
  text.toList.head?.any isIdentStart = true ∧
    text.toList.all (fun char => isIdentPart char || char = ':') = true

instance (text : String) : Decidable (IsName text) :=
  inferInstanceAs (Decidable (_ ∧ _))

/-- A number of the lexer begins with a digit, or with a point and a digit. -/
def startsNumber : List Char → Bool
  | [] => false
  | char :: rest => isDigit char || (char = '.' && rest.head?.any isDigit)

/-- A text that is read as one number. -/
def IsNumber (text : String) : Prop :=
  startsNumber text.toList = true ∧ scanNumber false false text.toList = (text.toList, [])

instance (text : String) : Decidable (IsNumber text) :=
  inferInstanceAs (Decidable (_ ∧ _))

/-- A text that is read as one duration. -/
def IsDuration (text : String) : Prop :=
  startsNumber text.toList = true ∧
    (scanUnit (scanNumber false false text.toList).2).2 = [] ∧
    (scanNumber false false text.toList).2 ≠ []

instance (text : String) : Decidable (IsDuration text) :=
  inferInstanceAs (Decidable (_ ∧ _ ∧ _))

/-- The operators of a level. -/
def Level.operators : Level → List OperatorToken
  | .or => [(.eof, "or"), (.eof, "unless")]
  | .and => [(.eof, "and")]
  | .add => [(.plus, "+"), (.minus, "-")]
  | .mul => [(.star, "*"), (.slash, "/")]

def comparisonOperators : List OperatorToken :=
  [(.eq, "=="), (.neq, "!="), (.gt, ">"), (.gte, ">="), (.lt, "<"), (.lte, "<=")]

/-- A tree that can be written: its numbers have literals, its names are names, its windows are
durations, and its operators are those there are. -/
inductive Printable [RatCast Value] (literal : Value → String) : AstNode Value → Prop
  | number {value : Value} {exact : ℚ} (written : IsNumber (literal value))
      (denotes : parseFloat (literal value) = .ok exact) (same : (exact : Value) = value) :
      Printable literal (.number value)
  | vectorSelector {selector : VectorSelector} (named : IsName selector.name)
      (labelled : ∀ entry ∈ selector.matchers.toList, IsName entry.1)
      (window : selector.duration = "" ∨ IsDuration selector.duration) :
      Printable literal (.vectorSelector selector)
  | binary {operator : OperatorToken} {lhs rhs : AstNode Value}
      (known : (∃ level : Level, operator ∈ level.operators) ∨ operator ∈ comparisonOperators)
      (left : Printable literal lhs) (right : Printable literal rhs) :
      Printable literal (.binary operator.1 operator.2 lhs rhs)
  | unaryMinus {inner : AstNode Value} (printable : Printable literal inner) :
      Printable literal (.unaryMinus inner)
  | funcCall {name : String} {args : List (AstNode Value)} {byLabels : List String}
      (named : IsName name) (printable : ∀ arg ∈ args, Printable literal arg)
      (labelled : ∀ label ∈ byLabels, IsName label) :
      Printable literal (.funcCall name args byLabels)

/-! ### The text of a tree lexes to its tokens -/

/-- The tokens whose text is always the same. -/
def symbols : List Lexeme :=
  [(.lParen, "("), (.rParen, ")"), (.lBrace, "\x7b"), (.rBrace, "\x7d"), (.lBracket, "["),
    (.rBracket, "]"), (.comma, ","), (.plus, "+"), (.minus, "-"), (.star, "*"), (.slash, "/"),
    (.eq, "=="), (.neq, "!="), (.gt, ">"), (.gte, ">="), (.lt, "<"), (.lte, "<="), (.assign, "=")]

/-- The lexemes that are read back from their letters. -/
inductive Spellable : Lexeme → Prop
  | symbol {lexeme : Lexeme} (known : lexeme ∈ symbols) : Spellable lexeme
  | string (text : String) : Spellable (.string, text)
  | ident {text : String} (named : IsName text) : Spellable (.ident, text)
  | number {text : String} (written : IsNumber text) : Spellable (.number, text)
  | duration {text : String} (written : IsDuration text) : Spellable (.duration, text)

section Scanning

variable {char : Char} {chars rest : List Char} {pos : Nat}

theorem scanString_escape (text rest : List Char) :
    scanString (escape text ++ '"' :: rest) = some (text, rest) := by
  induction text with
  | nil => rfl
  | cons char text hypothesis =>
    unfold escape at hypothesis ⊢
    rw [List.flatMap_cons, List.append_assoc]
    by_cases special : char = '"' ∨ char = '\\'
    · rw [if_pos special]
      simp [scanString, hypothesis]
    · rw [if_neg special]
      obtain ⟨noQuote, noBackslash⟩ := not_or.mp special
      simp [scanString, hypothesis, noBackslash]

theorem scanNumber_stop (hasDot hasE : Bool) (rest : List Char) :
    scanNumber hasDot hasE (' ' :: rest) = ([], ' ' :: rest) := by
  have noDigit : isDigit ' ' = false := by decide
  unfold scanNumber
  simp [noDigit]

theorem scanNumber_space (hasDot hasE : Bool) (chars rest : List Char) :
    scanNumber hasDot hasE (chars ++ ' ' :: rest) =
      ((scanNumber hasDot hasE chars).1, (scanNumber hasDot hasE chars).2 ++ ' ' :: rest) := by
  fun_induction scanNumber hasDot hasE chars with
  | case1 => exact scanNumber_stop _ _ rest
  | case2 hasDot hasE char others digit scanned hypothesis =>
    rw [List.cons_append, scanNumber.eq_def]
    dsimp only
    rw [if_pos digit, hypothesis]
  | case3 hasDot hasE char others noDigit point scanned hypothesis =>
    rw [List.cons_append, scanNumber.eq_def]
    dsimp only
    rw [if_neg noDigit, if_pos point, hypothesis]
  | case4 hasDot hasE char noDigit noPoint mark =>
    rw [List.cons_append, scanNumber.eq_def]
    dsimp only
    rw [if_neg noDigit, if_neg noPoint, if_pos mark]
    simp [scanNumber_stop]
  | case5 hasDot hasE char noDigit noPoint mark sign others signed scanned hypothesis =>
    rw [List.cons_append, scanNumber.eq_def]
    dsimp only
    rw [if_neg noDigit, if_neg noPoint, if_pos mark]
    show (if sign = '+' ∨ sign = '-' then _ else _) = _
    rw [if_pos signed]
    exact congrArg (fun scanned => (char :: sign :: scanned.1, scanned.2)) hypothesis
  | case6 hasDot hasE char noDigit noPoint mark sign others unsigned scanned hypothesis =>
    rw [List.cons_append, scanNumber.eq_def]
    dsimp only
    rw [if_neg noDigit, if_neg noPoint, if_pos mark]
    show (if sign = '+' ∨ sign = '-' then _ else _) = _
    rw [if_neg unsigned]
    exact congrArg (fun scanned => (char :: scanned.1, scanned.2)) hypothesis
  | case7 hasDot hasE char others noDigit noPoint noMark =>
    rw [List.cons_append, scanNumber.eq_def]
    dsimp only
    rw [if_neg noDigit, if_neg noPoint, if_neg noMark]

theorem scanNumber_append (hasDot hasE : Bool) (chars : List Char) :
    (scanNumber hasDot hasE chars).1 ++ (scanNumber hasDot hasE chars).2 = chars := by
  fun_induction scanNumber hasDot hasE chars with
  | case1 => rfl
  | case2 hasDot hasE char others digit scanned hypothesis =>
    exact congrArg (char :: ·) hypothesis
  | case3 hasDot hasE char others noDigit point scanned hypothesis =>
    exact congrArg (char :: ·) hypothesis
  | case4 => rfl
  | case5 hasDot hasE char noDigit noPoint mark sign others signed scanned hypothesis =>
    exact congrArg (char :: sign :: ·) hypothesis
  | case6 hasDot hasE char noDigit noPoint mark sign others unsigned scanned hypothesis =>
    exact congrArg (char :: ·) hypothesis
  | case7 => rfl

theorem scanUnit_space (ended : (scanUnit chars).2 = []) :
    scanUnit (chars ++ ' ' :: rest) = (chars, ' ' :: rest) := by
  fun_cases scanUnit chars <;> simp_all [scanUnit, isUnit]

/-- The characters that start neither a number nor a name. -/
def reserved : List Char :=
  ['=', '!', '>', '<', '"', '(', ')', '\x7b', '\x7d', '[', ']', ',', '+', '-', '*', '/', ' ', '\t', '\n',
    '\x0b', '\x0c', '\r']

theorem next_gap {gap : List Char} (spaces : gap.all isSpace = true) (visible : isSpace char = false)
    (chars : List Char) :
    next pos (gap ++ char :: chars) = next (pos + gap.length) (char :: chars) := by
  have spaces : ∀ space ∈ gap, isSpace space = true := List.all_eq_true.mp spaces
  unfold next
  rw [List.takeWhile_append_of_pos spaces, List.dropWhile_append_of_pos spaces,
    List.takeWhile_cons_of_neg (by simp [visible]), List.dropWhile_cons_of_neg (by simp [visible]),
    List.append_nil, List.length_nil, Nat.add_zero]

theorem visible_of_plain (plain : char ∉ reserved) : isSpace char = false := by
  simp_all [reserved, isSpace]

theorem next_plain (plain : char ∉ reserved) (chars : List Char) :
    next pos (char :: chars) =
      if isDigit char || (char = '.' && chars.head?.any isDigit) then
        readNumberOrDuration pos (char :: chars)
      else if isIdentStart char then readIdent pos (char :: chars)
      else .error ("unexpected character '" ++ (firstByte char).toString ++ "' at pos " ++
        toString pos) := by
  have visible := visible_of_plain plain
  have none : punctuation char = none := by
    unfold punctuation
    split <;> simp_all [reserved]
  unfold next
  rw [List.takeWhile_cons_of_neg (by simp [visible]), List.dropWhile_cons_of_neg (by simp [visible])]
  dsimp only
  rw [none, List.length_nil, Nat.add_zero]
  dsimp only
  unfold longToken
  split <;> simp_all [reserved]

end Scanning

section Lexing

variable {lexeme : Lexeme} {text : String}

/-- With a space behind it, the token is read, and the space is left. -/
def Lexes (lexeme : Lexeme) : Prop :=
  ∀ pos rest, ∃ token after,
    next pos (spell lexeme ++ ' ' :: rest) = .ok (token, after, ' ' :: rest) ∧ token.lexeme = lexeme

theorem lexes_symbol (known : lexeme ∈ symbols) : Lexes lexeme := by
  intro pos rest
  simp only [symbols, List.mem_cons, List.not_mem_nil, or_false] at known
  rcases known with rfl | rfl | rfl | rfl | rfl | rfl | rfl | rfl | rfl | rfl | rfl | rfl | rfl | rfl |
    rfl | rfl | rfl | rfl <;> exact ⟨_, _, rfl, rfl⟩

theorem lexes_string (text : String) : Lexes (.string, text) := by
  intro pos rest
  have spelled : spell (.string, text) ++ ' ' :: rest =
      '"' :: (escape text.toList ++ '"' :: ' ' :: rest) := by
    simp [spell]
  rw [spelled]
  refine ⟨⟨.string, String.ofList text.toList, pos⟩,
    pos + 1 + (byteLength (escape text.toList ++ '"' :: ' ' :: rest) - byteLength (' ' :: rest)), ?_, ?_⟩
  · show readString pos _ = _
    rw [readString, scanString_escape]
  · simp [Token.lexeme]

theorem letter_ne_reserved : ∀ char ∈ '.' :: reserved, ¬ isIdentStart char = true :=
  List.forall_iff_forall_mem.mp (by decide)

theorem digit_ne_reserved : ∀ char ∈ reserved, ¬ isDigit char = true :=
  List.forall_iff_forall_mem.mp (by decide)

theorem letter_ne_digit {char : Char} (digit : isDigit char = true) : ¬ isIdentStart char = true := by
  simp only [isDigit, isIdentStart, Bool.and_eq_true, Bool.or_eq_true, decide_eq_true_eq, Char.le_def,
    UInt32.le_iff_toNat_le] at digit ⊢
  have low : ('0' : Char).val.toNat = 48 := rfl
  have high : ('9' : Char).val.toNat = 57 := rfl
  have small : ('a' : Char).val.toNat = 97 := rfl
  have capital : ('A' : Char).val.toNat = 65 := rfl
  rintro ((⟨above, -⟩ | ⟨above, -⟩) | rfl)
  · omega
  · omega
  · exact absurd digit.2 (by decide)

theorem IsName.start (named : IsName text) :
    ∃ char chars, text.toList = char :: chars ∧ isIdentStart char = true ∧ char ∉ '.' :: reserved := by
  obtain ⟨starts, -⟩ := named
  cases same : text.toList with
  | nil => simp [same] at starts
  | cons char chars =>
    have start : isIdentStart char = true := by simpa [same] using starts
    exact ⟨char, chars, rfl, start, fun member => letter_ne_reserved char member start⟩

theorem lexes_ident (named : IsName text) : Lexes (.ident, text) := by
  intro pos rest
  obtain ⟨char, chars, same, start, plain⟩ := named.start
  obtain ⟨noPoint, plain⟩ := not_or.mp (fun either => plain (List.mem_cons.mpr either))
  have noDigit : isDigit char = false := Bool.eq_false_iff.mpr fun digit => letter_ne_digit digit start
  have parts : ∀ part ∈ text.toList, (isIdentPart part || part = ':') = true :=
    List.all_eq_true.mp named.2
  have spelled : spell (.ident, text) = text.toList := rfl
  refine ⟨⟨.ident, String.ofList text.toList, pos⟩, pos + byteLength text.toList, ?_, ?_⟩
  · rw [spelled, same, List.cons_append, next_plain plain, if_neg (by simp [noDigit, noPoint]),
      if_pos start, ← List.cons_append, ← same, readIdent, List.takeWhile_append_of_pos parts,
      List.dropWhile_append_of_pos parts, List.takeWhile_cons_of_neg (by decide),
      List.dropWhile_cons_of_neg (by decide), List.append_nil]
    rfl
  · simp [Token.lexeme]

theorem startsNumber_eq_true (starts : startsNumber text.toList = true) :
    ∃ char chars, text.toList = char :: chars ∧ char ∉ reserved ∧ ∀ rest,
      (isDigit char || (char = '.' && (chars ++ rest).head?.any isDigit)) = true := by
  cases same : text.toList with
  | nil => simp [same, startsNumber] at starts
  | cons char chars =>
    rw [same] at starts
    rcases Bool.or_eq_true_iff.mp starts with digit | point
    · exact ⟨char, chars, rfl, fun member => digit_ne_reserved char member digit, by simp [digit]⟩
    · obtain ⟨rfl, further⟩ : char = '.' ∧ chars.head?.any isDigit = true := by simpa using point
      refine ⟨'.', chars, rfl, by decide, fun rest => ?_⟩
      cases chars with
      | nil => simp at further
      | cons first others => simpa using Or.inr further

theorem lexes_number (written : IsNumber text) : Lexes (.number, text) := by
  intro pos rest
  obtain ⟨starts, scanned⟩ := written
  obtain ⟨char, chars, same, plain, start⟩ := startsNumber_eq_true starts
  have spelled : spell (.number, text) = text.toList := rfl
  refine ⟨⟨.number, String.ofList text.toList, pos⟩, pos + byteLength text.toList, ?_, ?_⟩
  · rw [spelled, same, List.cons_append, next_plain plain, if_pos (start (' ' :: rest)),
      ← List.cons_append, ← same, readNumberOrDuration, scanNumber_space, scanned]
    rfl
  · simp [Token.lexeme]

theorem lexes_duration (written : IsDuration text) : Lexes (.duration, text) := by
  intro pos rest
  obtain ⟨starts, ended, measured⟩ := written
  obtain ⟨char, chars, same, plain, start⟩ := startsNumber_eq_true starts
  have spelled : spell (.duration, text) = text.toList := rfl
  refine ⟨⟨.duration, String.ofList text.toList, pos⟩, pos + byteLength text.toList, ?_, ?_⟩
  · rw [spelled, same, List.cons_append, next_plain plain, if_pos (start (' ' :: rest)),
      ← List.cons_append, ← same, readNumberOrDuration, scanNumber_space]
    dsimp only
    rw [scanUnit_space ended]
    have whole := scanNumber_append false false text.toList
    cases unit : (scanNumber false false text.toList).2 with
    | nil => exact absurd unit measured
    | cons first others =>
      rw [unit] at whole
      dsimp only
      rw [whole]
      rfl
  · simp [Token.lexeme]

theorem lexes_of_spellable (spellable : Spellable lexeme) : Lexes lexeme := by
  cases spellable with
  | symbol known => exact lexes_symbol known
  | string text => exact lexes_string text
  | ident named => exact lexes_ident named
  | number written => exact lexes_number written
  | duration written => exact lexes_duration written

theorem spell_visible (spellable : Spellable lexeme) :
    ∃ char chars, spell lexeme = char :: chars ∧ isSpace char = false := by
  cases spellable with
  | symbol known =>
    simp only [symbols, List.mem_cons, List.not_mem_nil, or_false] at known
    rcases known with rfl | rfl | rfl | rfl | rfl | rfl | rfl | rfl | rfl | rfl | rfl | rfl | rfl | rfl |
      rfl | rfl | rfl | rfl <;> exact ⟨_, _, rfl, rfl⟩
  | string text => exact ⟨_, _, rfl, rfl⟩
  | ident named =>
    obtain ⟨char, chars, same, -, plain⟩ := named.start
    exact ⟨char, chars, same, visible_of_plain fun member => plain (List.mem_cons_of_mem _ member)⟩
  | number written =>
    obtain ⟨char, chars, same, plain, -⟩ := startsNumber_eq_true written.1
    exact ⟨char, chars, same, visible_of_plain plain⟩
  | duration written =>
    obtain ⟨char, chars, same, plain, -⟩ := startsNumber_eq_true written.1
    exact ⟨char, chars, same, visible_of_plain plain⟩

theorem Spellable.ne_eof (spellable : Spellable lexeme) : lexeme.1 ≠ .eof := by
  cases spellable with
  | symbol known =>
    have all : ∀ lexeme ∈ symbols, lexeme.1 ≠ .eof := by decide
    exact all _ known
  | string _ => simp
  | ident _ => simp
  | number _ => simp
  | duration _ => simp

theorem layout_cons (lexeme : Lexeme) (lexemes : List Lexeme) :
    layout (lexeme :: lexemes) = spell lexeme ++ ' ' :: layout lexemes := by
  simp [layout]

theorem length_le_layout (lexemes : List Lexeme) : lexemes.length ≤ (layout lexemes).length := by
  induction lexemes with
  | nil => rfl
  | cons lexeme lexemes hypothesis =>
    rw [layout_cons, List.length_append, List.length_cons, List.length_cons]
    omega

theorem tokenizeFrom_layout {lexemes : List Lexeme} (spellable : ∀ lexeme ∈ lexemes, Spellable lexeme)
    (gap : List Char) (spaces : gap.all isSpace = true) (bound pos : Nat)
    (enough : lexemes.length ≤ bound) :
    ∃ tokens last, tokenizeFrom bound pos (gap ++ layout lexemes) = .ok (tokens ++ [last]) ∧
      tokens.map Token.lexeme = lexemes := by
  induction lexemes generalizing gap bound pos with
  | nil =>
    have spaces : ∀ space ∈ gap, isSpace space = true := List.all_eq_true.mp spaces
    cases bound with
    | zero => exact ⟨[], _, rfl, rfl⟩
    | succ bound =>
      refine ⟨[], ⟨.eof, "", pos + gap.length⟩, ?_, rfl⟩
      have read : next pos (gap ++ layout []) = tokenAt .eof [] (pos + gap.length) [] := by
        unfold next
        rw [layout, List.flatMap_nil, List.takeWhile_append_of_pos spaces,
          List.dropWhile_append_of_pos spaces, List.takeWhile_nil, List.dropWhile_nil, List.append_nil]
      rw [tokenizeFrom, read]
      rfl
  | cons lexeme lexemes hypothesis =>
    obtain ⟨here, others⟩ := List.forall_mem_cons.mp spellable
    rw [List.length_cons] at enough
    obtain ⟨bound, rfl⟩ := Nat.exists_eq_add_one_of_ne_zero (show bound ≠ 0 by omega)
    obtain ⟨char, chars, spelled, visible⟩ := spell_visible here
    obtain ⟨token, after, read, same⟩ := lexes_of_spellable here (pos + gap.length) (layout lexemes)
    obtain ⟨tokens, last, lexed, sameTokens⟩ :=
      hypothesis others [' '] rfl bound after (by omega)
    refine ⟨token :: tokens, last, ?_, ?_⟩
    · have inside : token.kind ≠ .eof := by
        rw [show token.kind = lexeme.1 from congrArg Prod.fst same]
        exact here.ne_eof
      rw [tokenizeFrom, layout_cons, spelled, List.cons_append, next_gap spaces visible, ← List.cons_append,
        ← spelled, read]
      show (if token.kind = .eof then _ else _) = _
      rw [if_neg inside]
      show (tokenizeFrom bound after ([' '] ++ layout lexemes) >>= _) = _
      rw [lexed]
      rfl
    · rw [List.map_cons, same, sameTokens]

theorem tokenize_layout {lexemes : List Lexeme} (spellable : ∀ lexeme ∈ lexemes, Spellable lexeme) :
    ∃ tokens last, tokenize (String.ofList (layout lexemes)) = .ok (tokens ++ [last]) ∧
      tokens.map Token.lexeme = lexemes := by
  rw [tokenize, String.toList_ofList]
  exact tokenizeFrom_layout spellable [] rfl _ 0 (length_le_layout lexemes)

end Lexing

/-! ### The tokens of a tree can be written -/

section Spelling

/-- Tokens that can be written. -/
def Written (lexemes : List Lexeme) : Prop :=
  ∀ lexeme ∈ lexemes, Spellable lexeme

@[simp] theorem written_nil : Written [] :=
  fun _ member => absurd member List.not_mem_nil

@[simp] theorem written_cons {lexeme : Lexeme} {lexemes : List Lexeme} :
    Written (lexeme :: lexemes) ↔ Spellable lexeme ∧ Written lexemes :=
  List.forall_mem_cons

@[simp] theorem written_append {lexemes others : List Lexeme} :
    Written (lexemes ++ others) ↔ Written lexemes ∧ Written others :=
  List.forall_mem_append

theorem written_inParens {lexemes : List Lexeme} (inner : Written lexemes) : Written (inParens lexemes) := by
  have left : Spellable (.lParen, "(") := .symbol (by decide)
  have right : Spellable (.rParen, ")") := .symbol (by decide)
  simp [inParens, inner, left, right]

theorem written_withCommas {items : List (List Lexeme)} (each : ∀ item ∈ items, Written item) :
    Written (withCommas items) := by
  have comma : Spellable (.comma, ",") := .symbol (by decide)
  fun_induction withCommas items with
  | case1 => exact written_nil
  | case2 item => exact each item (List.mem_singleton_self item)
  | case3 item next rest hypothesis =>
    obtain ⟨first, others⟩ := List.forall_mem_cons.mp each
    exact written_append.mpr ⟨first, written_cons.mpr ⟨comma, hypothesis others⟩⟩

theorem written_labels {labels : List String} (labelled : ∀ label ∈ labels, IsName label) :
    Written (labelsLexemes labels) := by
  have keyword : Spellable (.ident, "by") := .ident (by decide)
  unfold labelsLexemes
  split
  · exact written_nil
  · refine written_cons.mpr ⟨keyword, written_inParens (written_withCommas fun item member => ?_)⟩
    obtain ⟨label, known, rfl⟩ := List.mem_map.mp member
    exact written_cons.mpr ⟨.ident (labelled label known), written_nil⟩

theorem written_selector {selector : VectorSelector} (named : IsName selector.name)
    (labelled : ∀ entry ∈ selector.matchers.toList, IsName entry.1)
    (window : selector.duration = "" ∨ IsDuration selector.duration) :
    Written (selectorLexemes selector) := by
  have matchers : Written (withCommas (selector.matchers.toList.map matcherLexemes)) := by
    refine written_withCommas fun item member => ?_
    obtain ⟨entry, known, rfl⟩ := List.mem_map.mp member
    have name : Spellable (.ident, entry.1) := .ident (labelled entry known)
    have assign : Spellable (.assign, "=") := .symbol (by decide)
    simp [matcherLexemes, name, assign, Spellable.string]
  unfold selectorLexemes
  refine written_cons.mpr ⟨.ident named, written_append.mpr ⟨?_, ?_⟩⟩
  · split
    · exact written_nil
    · have left : Spellable (.lBrace, "\x7b") := .symbol (by decide)
      have right : Spellable (.rBrace, "\x7d") := .symbol (by decide)
      simp [left, right, matchers]
  · split
    · exact written_nil
    · rename_i given
      have left : Spellable (.lBracket, "[") := .symbol (by decide)
      have right : Spellable (.rBracket, "]") := .symbol (by decide)
      have duration : Spellable (.duration, selector.duration) := .duration (window.resolve_left given)
      simp [left, right, duration]

theorem written_operator {operator : OperatorToken}
    (known : (∃ level : Level, operator ∈ level.operators) ∨ operator ∈ comparisonOperators) :
    Spellable (operatorLexeme operator) := by
  have symbol : ∀ level : Level, ∀ operator ∈ level.operators, operator.1 = .eof ∨
      operatorLexeme operator ∈ symbols := by
    intro level
    cases level <;> decide
  have keyword : ∀ level : Level, ∀ operator ∈ level.operators, operator.1 = .eof →
      IsName operator.2 := by
    intro level
    cases level <;> decide
  have comparison : ∀ operator ∈ comparisonOperators, operatorLexeme operator ∈ symbols := by decide
  rcases known with ⟨level, member⟩ | member
  · by_cases named : operator.1 = .eof
    · unfold operatorLexeme
      rw [if_pos named]
      exact .ident (keyword level operator member named)
    · exact .symbol ((symbol level operator member).resolve_left named)
  · exact .symbol (comparison operator member)

theorem argsLexemes_eq (literal : Value → String) (args : List (AstNode Value)) :
    argsLexemes literal args = args.map fun arg => inParens (lexemes literal arg) := by
  induction args with
  | nil => rfl
  | cons arg args hypothesis => rw [argsLexemes, hypothesis, List.map_cons]

theorem written_lexemes [RatCast Value] {literal : Value → String} {node : AstNode Value}
    (printable : Printable literal node) : Written (lexemes literal node) := by
  induction printable with
  | number written _ _ => exact written_cons.mpr ⟨.number written, written_nil⟩
  | vectorSelector named labelled window => exact written_selector named labelled window
  | binary known _ _ left right =>
    exact written_append.mpr
      ⟨written_inParens left, written_cons.mpr ⟨written_operator known, written_inParens right⟩⟩
  | unaryMinus _ inner =>
    exact written_cons.mpr ⟨.symbol (by decide), written_inParens inner⟩
  | funcCall named _ labelled inner =>
    refine written_cons.mpr ⟨.ident named, written_append.mpr ⟨?_, written_labels labelled⟩⟩
    refine written_inParens (written_withCommas fun item member => ?_)
    rw [argsLexemes_eq] at member
    obtain ⟨arg, known, rfl⟩ := List.mem_map.mp member
    exact written_inParens (inner arg known)

end Spelling

/-! ### The grammar derives a tree from its tokens -/

section Derivation

variable {tokens : List Token}

theorem map_lexeme_eq_cons {lexeme : Lexeme} {lexemes : List Lexeme}
    (same : tokens.map Token.lexeme = lexeme :: lexemes) :
    ∃ token rest, tokens = token :: rest ∧ Is lexeme.1 token ∧ token.text = lexeme.2 ∧
      rest.map Token.lexeme = lexemes := by
  obtain ⟨token, rest, rfl, rfl, others⟩ := List.map_eq_cons_iff.mp same
  exact ⟨token, rest, rfl, rfl, rfl, others⟩

theorem map_lexeme_eq_between {left right : Lexeme} {lexemes : List Lexeme}
    (same : tokens.map Token.lexeme = left :: (lexemes ++ [right])) :
    ∃ first inner last, tokens = first :: (inner ++ [last]) ∧ Is left.1 first ∧ Is right.1 last ∧
      inner.map Token.lexeme = lexemes := by
  obtain ⟨first, rest, rfl, opens, -, others⟩ := map_lexeme_eq_cons same
  obtain ⟨inner, behind, rfl, rfl, closing⟩ := List.map_eq_append_iff.mp others
  obtain ⟨last, none, rfl, closes, -, ended⟩ := map_lexeme_eq_cons closing
  obtain rfl := List.map_eq_nil_iff.mp ended
  exact ⟨first, inner, last, rfl, opens, closes, rfl⟩

theorem separated_withCommas {Item : Type} {related : List Token → Item → Prop}
    {write : Item → List Lexeme} {items : List Item} (nonempty : items ≠ [])
    (each : ∀ item ∈ items, ∀ tokens, tokens.map Token.lexeme = write item → related tokens item)
    (same : tokens.map Token.lexeme = withCommas (items.map write)) :
    Separated isComma related tokens items := by
  induction items generalizing tokens with
  | nil => exact absurd rfl nonempty
  | cons item items hypothesis =>
    obtain ⟨here, others⟩ := List.forall_mem_cons.mp each
    cases items with
    | nil => exact .one (here tokens same)
    | cons next items =>
      obtain ⟨used, behind, rfl, first, further⟩ := List.map_eq_append_iff.mp same
      obtain ⟨token, rest, rfl, comma, -, further⟩ := map_lexeme_eq_cons further
      have comma : token.kind = .comma := comma
      exact .more (here used first) (decide_eq_true comma)
        (hypothesis (List.cons_ne_nil _ _) others further)

theorem matchersOf_toList (matchers : Labels) : matchersOf matchers.toList = matchers := by
  have folded : ∀ (entries : List (String × String)) (start : Labels),
      entries.foldl (fun matchers entry => matchers.insert entry.1 entry.2) start =
        start.insertMany entries := by
    intro entries
    induction entries with
    | nil => intro start; simp
    | cons entry entries hypothesis =>
      intro start
      rw [List.foldl_cons, hypothesis, ← Std.ExtTreeMap.insertMany_cons]
  rw [matchersOf, folded]
  refine Std.ExtTreeMap.ext_getElem? fun name => ?_
  cases found : matchers[name]? with
  | some text =>
    exact Std.ExtTreeMap.getElem?_insertMany_list_of_mem Std.ReflCmp.compare_self
      Std.ExtTreeMap.distinct_keys_toList (Std.ExtTreeMap.mem_toList_iff_getElem?_eq_some.mpr found)
  | none =>
    rw [Std.ExtTreeMap.getElem?_insertMany_list_of_contains_eq_false]
    · simp
    · have absent : name ∉ matchers := by
        rw [Std.ExtTreeMap.mem_iff_isSome_getElem?, found]
        simp
      simpa using absent

theorem labelList_of_lexemes {labels : List String} (nonempty : labels ≠ [])
    (same : tokens.map Token.lexeme =
      inParens (withCommas (labels.map fun label => [(.ident, label)]))) :
    LabelList tokens labels := by
  obtain ⟨left, inner, right, rfl, opens, closes, between⟩ := map_lexeme_eq_between same
  refine .some opens (separated_withCommas nonempty (fun label _ used written => ?_) between) closes
  obtain ⟨token, none, rfl, is, text, ended⟩ := map_lexeme_eq_cons written
  obtain rfl := List.map_eq_nil_iff.mp ended
  exact ⟨token, rfl, is, text⟩

theorem isMatcher_of_lexemes {entry : String × String}
    (same : tokens.map Token.lexeme = matcherLexemes entry) : IsMatcher tokens entry := by
  obtain ⟨name, rest, rfl, isName, nameText, further⟩ := map_lexeme_eq_cons same
  obtain ⟨assign, rest, rfl, isAssign, -, further⟩ := map_lexeme_eq_cons further
  obtain ⟨text, none, rfl, isText, textText, ended⟩ := map_lexeme_eq_cons further
  obtain rfl := List.map_eq_nil_iff.mp ended
  exact ⟨name, assign, text, rfl, isName, isAssign, isText, by rw [nameText, textText]⟩

section Lifting

variable [RatCast Value] {node : AstNode Value}

theorem Derives.alone {level : Level} (operand : Derives level.operand tokens [node]) :
    Derives (.chain level) tokens [node] := by
  rw [← List.append_nil tokens]
  exact .chain operand .done

theorem Derives.operand_of_primary (primary : Derives .primary tokens [node]) (level : Level) :
    Derives level.operand tokens [node] := by
  have unary : Derives (Level.mul.operand) tokens [node] := .unsigned primary
  have add : Derives (Level.add.operand) tokens [node] := unary.alone
  have and : Derives (Level.and.operand) tokens [node] := .uncompared add.alone
  cases level with
  | or => exact and.alone
  | and => exact and
  | add => exact add
  | mul => exact unary

theorem Derives.expr_of_chain {level : Level} (chain : Derives (.chain level) tokens [node]) :
    Derives .expr tokens [node] := by
  cases level with
  | or => exact .expr chain
  | and =>
    have operand : Derives (Level.or.operand) tokens [node] := chain
    exact .expr operand.alone
  | add =>
    have operand : Derives (Level.and.operand) tokens [node] := .uncompared chain
    have operand : Derives (Level.or.operand) tokens [node] := operand.alone
    exact .expr operand.alone
  | mul =>
    have operand : Derives (Level.add.operand) tokens [node] := chain
    have operand : Derives (Level.and.operand) tokens [node] := .uncompared operand.alone
    have operand : Derives (Level.or.operand) tokens [node] := operand.alone
    exact .expr operand.alone

theorem Derives.expr_of_primary (primary : Derives .primary tokens [node]) :
    Derives .expr tokens [node] :=
  (primary.operand_of_primary .or).alone.expr_of_chain

end Lifting

theorem operator_of_lexeme {level : Level} {operator : OperatorToken} {token : Token}
    (known : operator ∈ level.operators) (same : token.lexeme = operatorLexeme operator) :
    level.operator token = some operator := by
  obtain ⟨kind, text, pos⟩ := token
  have same : (kind, text) = operatorLexeme operator := same
  cases level with
  | or =>
    simp only [Level.operators, List.mem_cons, List.not_mem_nil, or_false] at known
    rcases known with rfl | rfl <;>
    · obtain ⟨rfl, rfl⟩ := Prod.mk.inj same
      simp [Level.operator, keywordOf, isKeyword, toLower_eq_ofList]
  | and =>
    obtain rfl := List.mem_singleton.mp known
    obtain ⟨rfl, rfl⟩ := Prod.mk.inj same
    simp [Level.operator, keywordOf, isKeyword, toLower_eq_ofList]
  | add | mul =>
    simp only [Level.operators, List.mem_cons, List.not_mem_nil, or_false] at known
    rcases known with rfl | rfl <;>
    · obtain ⟨rfl, rfl⟩ := Prod.mk.inj same
      rfl

theorem comparison_of_lexeme {operator : OperatorToken} {token : Token}
    (known : operator ∈ comparisonOperators) (same : token.lexeme = operatorLexeme operator) :
    operatorOf comparisons token = some operator := by
  have kinds : ∀ operator ∈ comparisonOperators, operatorLexeme operator = operator ∧
      operator.1 ∈ comparisons := by decide
  obtain ⟨written, kind⟩ := kinds operator known
  rw [written] at same
  subst same
  exact operatorOf_eq_some_iff.mpr ⟨kind, rfl⟩

section Trees

variable [RatCast Value] {literal : Value → String} {node : AstNode Value}

/-- The grammar derives the tree from all tokens that are written like it. -/
def Recovered (literal : Value → String) (node : AstNode Value) : Prop :=
  ∀ tokens : List Token, tokens.map Token.lexeme = lexemes literal node → Derives .expr tokens [node]

theorem Recovered.parens (recovered : Recovered literal node)
    (same : tokens.map Token.lexeme = inParens (lexemes literal node)) :
    Derives .primary tokens [node] := by
  obtain ⟨left, inner, right, rfl, opens, closes, between⟩ := map_lexeme_eq_between same
  exact .parens opens (recovered inner between) closes

theorem recovered_selector (selector : VectorSelector) :
    Recovered literal (.vectorSelector selector) := by
  intro tokens same
  obtain ⟨name, rest, rfl, named, nameText, further⟩ := map_lexeme_eq_cons same
  obtain ⟨braced, bracketed, rfl, matcherTokens, windowTokens⟩ := List.map_eq_append_iff.mp further
  have matched : SelectorMatchers braced selector.matchers := by
    split at matcherTokens
    · rename_i empty
      obtain rfl := List.map_eq_nil_iff.mp matcherTokens
      rw [← matchersOf_toList selector.matchers, empty]
      exact .absent
    · rename_i nonempty
      obtain ⟨left, inner, right, rfl, opens, closes, between⟩ := map_lexeme_eq_between matcherTokens
      rw [← matchersOf_toList selector.matchers]
      exact .some opens
        (separated_withCommas nonempty (fun _ _ _ written => isMatcher_of_lexemes written) between) closes
  have window : SelectorWindow bracketed selector.duration := by
    split at windowTokens
    · rename_i empty
      obtain rfl := List.map_eq_nil_iff.mp windowTokens
      rw [empty]
      exact .absent
    · obtain ⟨left, rest, rfl, opens, -, further⟩ := map_lexeme_eq_cons windowTokens
      obtain ⟨duration, rest, rfl, known, text, further⟩ := map_lexeme_eq_cons further
      obtain ⟨right, none, rfl, closes, -, ended⟩ := map_lexeme_eq_cons further
      obtain rfl := List.map_eq_nil_iff.mp ended
      have text : duration.text = selector.duration := text
      rw [← text]
      exact .given opens known closes
  have derived : Derives (.primary : Nonterminal Value) (name :: (braced ++ bracketed))
      [.vectorSelector { name := name.text, matchers := selector.matchers, duration := selector.duration }] :=
    .selector named matched window
  rw [nameText] at derived
  exact derived.expr_of_primary

theorem recovered_binary {operator : OperatorToken} {lhs rhs : AstNode Value}
    (known : (∃ level : Level, operator ∈ level.operators) ∨ operator ∈ comparisonOperators)
    (left : Recovered literal lhs) (right : Recovered literal rhs) :
    Recovered literal (.binary operator.1 operator.2 lhs rhs) := by
  intro tokens same
  obtain ⟨before, behind, rfl, leftTokens, further⟩ := List.map_eq_append_iff.mp same
  obtain ⟨token, rest, rfl, operatorToken, rightTokens⟩ := List.map_eq_cons_iff.mp further
  have first := left.parens leftTokens
  have second := right.parens rightTokens
  rcases known with ⟨level, member⟩ | member
  · have tail : Derives (.tail level lhs) (token :: (rest ++ [])) [binaryNode operator lhs rhs] :=
      .step (operator_of_lexeme member operatorToken) (second.operand_of_primary level) .done
    rw [List.append_nil] at tail
    exact (Derives.chain (first.operand_of_primary level) tail).expr_of_chain
  · have compared : Derives (Level.and.operand) (before ++ token :: rest) [binaryNode operator lhs rhs] :=
      .compared (first.operand_of_primary .add).alone (comparison_of_lexeme member operatorToken)
        (second.operand_of_primary .add).alone
    exact compared.alone.expr_of_chain

theorem recovered_call {name : String} {args : List (AstNode Value)}
    (each : ∀ arg ∈ args, Recovered literal arg) (labels : List String) :
    Recovered literal (.funcCall name args labels) := by
  intro tokens same
  obtain ⟨head, rest, rfl, named, nameText, further⟩ := map_lexeme_eq_cons same
  obtain ⟨call, behind, rfl, callTokens, labelTokens⟩ := List.map_eq_append_iff.mp further
  obtain ⟨left, inner, right, rfl, opens, closes, between⟩ := map_lexeme_eq_between callTokens
  have nameText : head.text = name := nameText
  subst nameText
  have called : Derives .callArgs (left :: (inner ++ [right])) args := by
    rw [argsLexemes_eq] at between
    by_cases empty : args = []
    · subst empty
      obtain rfl := List.map_eq_nil_iff.mp between
      exact .noArgs opens closes
    · refine .someArgs opens (derives_args (separated_withCommas empty ?_ between)) closes
      intro arg member used written
      exact ((each arg member).parens written).expr_of_primary
  unfold labelsLexemes at labelTokens
  split at labelTokens
  · rename_i empty
    obtain rfl := List.map_eq_nil_iff.mp labelTokens
    rw [List.append_nil, empty]
    exact (Derives.call named called).expr_of_primary
  · rename_i nonempty
    obtain ⟨keyword, list, rfl, isIdent, text, listed⟩ := map_lexeme_eq_cons labelTokens
    have isIdent : keyword.kind = .ident := isIdent
    have text : keyword.text = "by" := text
    have grouped : isKeyword "by" keyword = true := by
      rw [isKeyword, isIdent, text, toLower_eq_ofList]
      rfl
    exact (Derives.callBy named called grouped (labelList_of_lexemes nonempty listed)).expr_of_primary

theorem recovered_of_printable (printable : Printable literal node) : Recovered literal node := by
  induction printable with
  | @number value exact written denotes same =>
    intro tokens sameTokens
    obtain ⟨token, none, rfl, known, text, ended⟩ := map_lexeme_eq_cons sameTokens
    obtain rfl := List.map_eq_nil_iff.mp ended
    have text : token.text = literal value := text
    rw [← same]
    exact (Derives.number known (text ▸ denotes)).expr_of_primary
  | vectorSelector _ _ _ => exact recovered_selector _
  | binary known _ _ left right => exact recovered_binary known left right
  | unaryMinus _ inner =>
    intro tokens same
    obtain ⟨sign, rest, rfl, minus, -, further⟩ := map_lexeme_eq_cons same
    have unary : Derives (Level.mul.operand) (sign :: rest) [.unaryMinus _] :=
      .minus minus (inner.parens further)
    exact unary.alone.expr_of_chain
  | funcCall _ _ _ each => exact recovered_call each _

/-- Whatever is printed is parsed back. -/
theorem parsePromQL_print (printable : Printable literal node) :
    parsePromQL (print literal node) = .ok node := by
  obtain ⟨tokens, last, lexed, same⟩ := tokenize_layout (written_lexemes printable)
  rw [print, parsePromQL_eq_ok_iff lexed, List.dropLast_concat]
  exact recovered_of_printable printable tokens same

/-- The parser accepts exactly its grammar: on the tokens of the lexer it gives exactly the tree
that the grammar derives; and it gives back every tree that is printed. -/
theorem parsePromQL_exact :
    (∀ (src : String) (tokens : List Token), tokenize src = .ok tokens → ∀ node : AstNode Value,
      parsePromQL src = .ok node ↔ Derives .expr tokens.dropLast [node]) ∧
    (∀ (literal : Value → String) (node : AstNode Value), Printable literal node →
      parsePromQL (print literal node) = .ok node) :=
  ⟨fun _ _ lexed node => parsePromQL_eq_ok_iff lexed node,
    fun _ _ printable => parsePromQL_print printable⟩

end Trees

/-- `sum(x[5m] or 1) by (queue)`. -/
def summed : AstNode ℚ :=
  .funcCall "sum" [.binary .eof "or" (.vectorSelector { name := "x", duration := "5m" }) (.number 1)]
    ["queue"]

theorem printable_summed : Printable (fun _ => "1") summed := by
  have selector : @Printable ℚ _ (fun _ => "1") (.vectorSelector { name := "x", duration := "5m" }) := by
    refine .vectorSelector (by decide) (fun entry member => ?_) (Or.inr (by decide))
    rw [Std.ExtTreeMap.toList_eq_nil_iff.mpr rfl] at member
    exact absurd member List.not_mem_nil
  have number : Printable (fun _ => "1") (.number (1 : ℚ)) :=
    .number (by decide) (show parseFloat "1" = .ok 1 by decide +kernel) rfl
  refine .funcCall (by decide) (fun arg member => ?_) (by decide)
  obtain rfl := List.mem_singleton.mp member
  exact @Printable.binary ℚ _ _ (.eof, "or") _ _ (Or.inl ⟨.or, by decide⟩) selector number

/-- A sum is read back from its text, and the text `x` is read as what it derives. -/
theorem parsePromQL_exact_summed :
    parsePromQL (print (fun _ => "1") summed) = .ok summed ∧
      tokenize "x" = .ok [⟨.ident, "x", 0⟩, ⟨.eof, "", 1⟩] ∧
      ∀ node : AstNode ℚ, parsePromQL "x" = .ok node ↔ Derives .expr [⟨.ident, "x", 0⟩] [node] :=
  have lexed : tokenize "x" = .ok [⟨.ident, "x", 0⟩, ⟨.eof, "", 1⟩] := rfl
  ⟨parsePromQL_exact.2 _ summed printable_summed, lexed, parsePromQL_exact.1 "x" _ lexed⟩

end Derivation

end Slo

end MqConnector
