/-
This file asks whether the parser accepts its grammar, the one at the head of `expr.go`,
and gives the tree of the derivation.

A production is a constructor of `Derives`.
-/

import MqConnector.Promql

namespace MqConnector

namespace Slo

open Parsing

variable {Value : Type}

/-! ### Labels -/

def Is (kind : TokenKind) (token : Token) : Prop :=
  token.kind = kind

def IsLabel (tokens : List Token) (name : String) : Prop :=
  ∃ token, tokens = [token] ∧ Is .ident token ∧ token.text = name

/-- `labelList` in its parentheses. -/
inductive LabelList : List Token → List String → Prop
  | none {left right : Token} (opens : Is .lParen left) (closes : Is .rParen right) :
      LabelList [left, right] []
  | some {left right : Token} {tokens : List Token} {labels : List String} (opens : Is .lParen left)
      (inner : Separated isComma IsLabel tokens labels) (closes : Is .rParen right) :
      LabelList (left :: (tokens ++ [right])) labels

/-- A matcher: a label name, `=` and a string. -/
def IsMatcher (tokens : List Token) (entry : String × String) : Prop :=
  ∃ name assign text, tokens = [name, assign, text] ∧ Is .ident name ∧ Is .assign assign ∧
    Is .string text ∧ (name.text, text.text) = entry

/-- `labelMatchers` in their braces, or nothing. -/
inductive SelectorMatchers : List Token → Labels → Prop
  | absent : SelectorMatchers [] ∅
  | none {left right : Token} (opens : Is .lBrace left) (closes : Is .rBrace right) :
      SelectorMatchers [left, right] ∅
  | some {left right : Token} {tokens : List Token} {entries : List (String × String)}
      (opens : Is .lBrace left) (inner : Separated isComma IsMatcher tokens entries)
      (closes : Is .rBrace right) :
      SelectorMatchers (left :: (tokens ++ [right])) (matchersOf entries)

/-- A duration in brackets, or nothing. -/
inductive SelectorWindow : List Token → String → Prop
  | absent : SelectorWindow [] ""
  | given {left duration right : Token} (opens : Is .lBracket left) (known : Is .duration duration)
      (closes : Is .rBracket right) : SelectorWindow [left, duration, right] duration.text

/-! ### Expressions -/

/-- The levels whose operators associate to the left. -/
inductive Level
  | or | and | add | mul
  deriving DecidableEq

/-- The nonterminals. The tail of a level has read the operands before it. -/
inductive Nonterminal (Value : Type)
  | expr
  | chain (level : Level)
  | tail (level : Level) (lhs : AstNode Value)
  | cmpExpr
  | unaryExpr
  | primary
  | callArgs
  | args

namespace Level

/-- The operators of a level. -/
def operator : Level → Token → Option OperatorToken
  | .or => keywordOf ["or", "unless"]
  | .and => keywordOf ["and"]
  | .add => operatorOf [.plus, .minus]
  | .mul => operatorOf [.star, .slash]

/-- What the operators of a level stand between. -/
def operand : Level → Nonterminal Value
  | .or => .chain .and
  | .and => .cmpExpr
  | .add => .chain .mul
  | .mul => .unaryExpr

end Level

/-- The grammar. An expression means one tree, the arguments of a call a list of them. -/
inductive Derives [RatCast Value] : Nonterminal Value → List Token → List (AstNode Value) → Prop
  | expr {tokens : List Token} {node : AstNode Value} (inner : Derives (.chain .or) tokens [node]) :
      Derives .expr tokens [node]
  | chain {level : Level} {used rest : List Token} {lhs node : AstNode Value}
      (first : Derives level.operand used [lhs]) (others : Derives (.tail level lhs) rest [node]) :
      Derives (.chain level) (used ++ rest) [node]
  | done {level : Level} {lhs : AstNode Value} : Derives (.tail level lhs) [] [lhs]
  | step {level : Level} {token : Token} {used rest : List Token} {operator : OperatorToken}
      {lhs rhs node : AstNode Value} (operates : level.operator token = some operator)
      (operand : Derives level.operand used [rhs])
      (others : Derives (.tail level (binaryNode operator lhs rhs)) rest [node]) :
      Derives (.tail level lhs) (token :: (used ++ rest)) [node]
  | uncompared {tokens : List Token} {node : AstNode Value}
      (inner : Derives (.chain .add) tokens [node]) : Derives .cmpExpr tokens [node]
  | compared {token : Token} {used rest : List Token} {operator : OperatorToken}
      {lhs rhs : AstNode Value} (left : Derives (.chain .add) used [lhs])
      (compares : operatorOf comparisons token = some operator)
      (right : Derives (.chain .add) rest [rhs]) :
      Derives .cmpExpr (used ++ token :: rest) [binaryNode operator lhs rhs]
  | unsigned {tokens : List Token} {node : AstNode Value} (inner : Derives .primary tokens [node]) :
      Derives .unaryExpr tokens [node]
  | minus {token : Token} {tokens : List Token} {node : AstNode Value} (sign : Is .minus token)
      (inner : Derives .primary tokens [node]) :
      Derives .unaryExpr (token :: tokens) [.unaryMinus node]
  | number {token : Token} {value : ℚ} (known : Is .number token)
      (denotes : parseFloat token.text = .ok value) :
      Derives .primary [token] [.number (value : Value)]
  | parens {left right : Token} {tokens : List Token} {node : AstNode Value}
      (opens : Is .lParen left) (inner : Derives .expr tokens [node]) (closes : Is .rParen right) :
      Derives .primary (left :: (tokens ++ [right])) [node]
  | call {name : Token} {tokens : List Token} {nodes : List (AstNode Value)} (named : Is .ident name)
      (inner : Derives .callArgs tokens nodes) :
      Derives .primary (name :: tokens) [.funcCall name.text nodes []]
  | callBy {name keyword : Token} {tokens rest : List Token} {nodes : List (AstNode Value)}
      {labels : List String} (named : Is .ident name) (inner : Derives .callArgs tokens nodes)
      (grouped : isKeyword "by" keyword = true) (list : LabelList rest labels) :
      Derives .primary (name :: (tokens ++ keyword :: rest)) [.funcCall name.text nodes labels]
  | byCall {name keyword : Token} {tokens rest : List Token} {nodes : List (AstNode Value)}
      {labels : List String} (named : Is .ident name) (grouped : isKeyword "by" keyword = true)
      (list : LabelList tokens labels) (inner : Derives .callArgs rest nodes) :
      Derives .primary (name :: keyword :: (tokens ++ rest)) [.funcCall name.text nodes labels]
  | selector {name : Token} {tokens rest : List Token} {matchers : Labels} {duration : String}
      (named : Is .ident name) (matched : SelectorMatchers tokens matchers)
      (window : SelectorWindow rest duration) :
      Derives .primary (name :: (tokens ++ rest))
        [.vectorSelector { name := name.text, matchers, duration }]
  | noArgs {left right : Token} (opens : Is .lParen left) (closes : Is .rParen right) :
      Derives .callArgs [left, right] []
  | someArgs {left right : Token} {tokens : List Token} {nodes : List (AstNode Value)}
      (opens : Is .lParen left) (inner : Derives .args tokens nodes) (closes : Is .rParen right) :
      Derives .callArgs (left :: (tokens ++ [right])) nodes
  | lastArg {tokens : List Token} {node : AstNode Value} (inner : Derives .expr tokens [node]) :
      Derives .args tokens [node]
  | nextArg {token : Token} {used rest : List Token} {node : AstNode Value}
      {nodes : List (AstNode Value)} (inner : Derives .expr used [node])
      (separates : isComma token = true) (others : Derives .args rest nodes) :
      Derives .args (used ++ token :: rest) (node :: nodes)

/-! ### Reading tokens -/

section Reading

variable {tokens rest : List Token} {kind : TokenKind} {token : Token}

theorem cons_of_peek (known : (peek tokens).kind = kind) (inside : kind ≠ .eof) :
    ∃ token, tokens = token :: tokens.tail ∧ peek tokens = token ∧ Is kind token := by
  cases tokens with
  | nil => exact absurd known.symm inside
  | cons token others => exact ⟨token, rfl, rfl, known⟩

theorem peek_of_head (found : token ∈ tokens.head?) : peek tokens = token := by
  unfold peek
  rw [show tokens.head? = some token from found]
  rfl

theorem expect_eq_ok (read : expect kind tokens = .ok (token, rest)) (inside : kind ≠ .eof) :
    tokens = token :: rest ∧ Is kind token := by
  unfold expect at read
  split at read
  · rename_i known
    obtain ⟨first, same, peeked, is⟩ := cons_of_peek known inside
    obtain ⟨rfl, rfl⟩ := Prod.mk.inj (Except.ok.inj read)
    rw [peeked]
    exact ⟨same, is⟩
  · cases read

theorem expect_cons (is : Is kind token) (rest : List Token) :
    expect kind (token :: rest) = .ok (token, rest) :=
  if_pos is

theorem ident_of_isKeyword {keyword : String} (known : isKeyword keyword token = true) :
    Is .ident token := by
  have named : token.kind = .ident := of_decide_eq_true (Bool.and_eq_true_iff.mp known).1
  exact named

theorem cons_of_isKeyword {keyword : String} (known : isKeyword keyword (peek tokens) = true) :
    ∃ token, tokens = token :: tokens.tail ∧ peek tokens = token ∧ isKeyword keyword token = true := by
  obtain ⟨token, same, peeked, -⟩ := cons_of_peek (ident_of_isKeyword known) (by decide)
  exact ⟨token, same, peeked, peeked ▸ known⟩

theorem comma_of_isComma (known : isComma token = true) : Is .comma token := by
  have kind : token.kind = .comma := of_decide_eq_true known
  exact kind

theorem operatorOf_eq_some_iff {kinds : List TokenKind} {operator : OperatorToken} :
    operatorOf kinds token = some operator ↔
      token.kind ∈ kinds ∧ (token.kind, token.text) = operator := by
  unfold operatorOf
  rw [Option.ite_none_right_eq_some, Option.some_inj, List.contains_iff_mem]

theorem keywordOf_eq_some {keywords : List String} {operator : OperatorToken}
    (operates : keywordOf keywords token = some operator) :
    ∃ keyword ∈ keywords, isKeyword keyword token = true ∧ operator = (.eof, keyword) := by
  obtain ⟨keyword, found, rfl⟩ := Option.map_eq_some_iff.mp operates
  have known := List.find?_some found
  exact ⟨keyword, List.mem_of_find?_eq_some found, known, rfl⟩

end Reading

/-! ### Soundness -/

theorem parseLabel_sound : Parsing.Sound parseLabel IsLabel := by
  intro tokens name rest read
  unfold parseLabel at read
  split at read
  · rename_i known
    obtain ⟨token, same, peeked, is⟩ := cons_of_peek known (by decide)
    obtain ⟨rfl, rfl⟩ := Prod.mk.inj (Except.ok.inj read)
    exact ⟨[token], same, token, rfl, is, by rw [peeked]⟩
  · cases read

theorem parseLabelList_sound : Parsing.Sound parseLabelList LabelList := by
  intro tokens labels rest read
  obtain ⟨⟨left, inside⟩, opened, further⟩ := bind_eq_ok.mp read
  obtain ⟨rfl, opens⟩ := expect_eq_ok opened (by decide)
  dsimp only at further
  split at further
  · rename_i known
    obtain ⟨right, same, -, closes⟩ := cons_of_peek known (by decide)
    obtain ⟨rfl, rfl⟩ := Prod.mk.inj (Except.ok.inj further)
    exact ⟨[left, right], by rw [List.cons_append, List.cons_append, List.nil_append, ← same],
      .none opens closes⟩
  · obtain ⟨⟨names, behind⟩, namesRead, further⟩ := bind_eq_ok.mp further
    obtain ⟨⟨right, after⟩, closed, same⟩ := bind_eq_ok.mp further
    obtain ⟨rfl, rfl⟩ := Prod.mk.inj (Except.ok.inj same)
    obtain ⟨used, rfl, inner⟩ := separated_sound parseLabel_sound _ _ _ _ namesRead
    obtain ⟨rfl, closes⟩ := expect_eq_ok closed (by decide)
    exact ⟨left :: (used ++ [right]), by simp, .some opens inner closes⟩

theorem parseMatcher_sound : Parsing.Sound parseMatcher IsMatcher := by
  intro tokens entry rest read
  obtain ⟨⟨name, behind⟩, labelRead, further⟩ := bind_eq_ok.mp read
  obtain ⟨used, rfl, token, rfl, is, rfl⟩ := parseLabel_sound _ _ _ labelRead
  dsimp only at further
  split at further
  · cases further
  · rename_i assigned
    split at further
    · cases further
    · rename_i quoted
      obtain ⟨assign, sameAssign, -, isAssign⟩ := cons_of_peek (not_not.mp assigned) (by decide)
      obtain ⟨text, sameText, peeked, isText⟩ := cons_of_peek (not_not.mp quoted) (by decide)
      obtain ⟨rfl, rfl⟩ := Prod.mk.inj (Except.ok.inj further)
      refine ⟨[token, assign, text], ?_, token, assign, text, rfl, is, isAssign, isText, ?_⟩
      · rw [sameAssign, sameText]
        simp
      · rw [peeked]

theorem parseSelectorMatchers_sound : Parsing.Sound parseSelectorMatchers SelectorMatchers := by
  intro tokens matchers rest read
  unfold parseSelectorMatchers at read
  split at read
  · rename_i braced
    obtain ⟨left, sameLeft, -, opens⟩ := cons_of_peek braced (by decide)
    unfold parseLabelMatchers at read
    split at read
    · rename_i known
      obtain ⟨right, sameRight, -, closes⟩ := cons_of_peek known (by decide)
      obtain ⟨rfl, rfl⟩ := Prod.mk.inj (Except.ok.inj read)
      refine ⟨[left, right], ?_, .none opens closes⟩
      rw [List.cons_append, List.cons_append, List.nil_append, ← sameRight, ← sameLeft]
    · obtain ⟨⟨entries, behind⟩, entriesRead, further⟩ := bind_eq_ok.mp read
      obtain ⟨⟨right, after⟩, closed, same⟩ := bind_eq_ok.mp further
      obtain ⟨rfl, rfl⟩ := Prod.mk.inj (Except.ok.inj same)
      obtain ⟨used, inside, inner⟩ := separated_sound parseMatcher_sound _ _ _ _ entriesRead
      obtain ⟨rfl, closes⟩ := expect_eq_ok closed (by decide)
      refine ⟨left :: (used ++ [right]), ?_, .some opens inner closes⟩
      rw [sameLeft, inside]
      simp
  · obtain ⟨rfl, rfl⟩ := Prod.mk.inj (Except.ok.inj read)
    exact ⟨[], rfl, .absent⟩

theorem parseWindow_sound : Parsing.Sound parseWindow SelectorWindow := by
  intro tokens duration rest read
  unfold parseWindow at read
  split at read
  · rename_i bracketed
    obtain ⟨left, sameLeft, -, opens⟩ := cons_of_peek bracketed (by decide)
    split at read
    · cases read
    · rename_i measured
      obtain ⟨token, sameToken, peeked, known⟩ := cons_of_peek (not_not.mp measured) (by decide)
      obtain ⟨⟨right, after⟩, closed, same⟩ := bind_eq_ok.mp read
      obtain ⟨rfl, rfl⟩ := Prod.mk.inj (Except.ok.inj same)
      obtain ⟨sameRight, closes⟩ := expect_eq_ok closed (by decide)
      refine ⟨[left, token, right], ?_, ?_⟩
      · rw [sameLeft, sameToken, sameRight]
        rfl
      · rw [peeked]
        exact .given opens known closes
  · obtain ⟨rfl, rfl⟩ := Prod.mk.inj (Except.ok.inj read)
    exact ⟨[], rfl, .absent⟩

section Sound

variable [RatCast Value] {expr : TokenParser (AstNode Value)}

/-- A parser reads what a nonterminal derives. -/
def Reads (parser : TokenParser (AstNode Value)) (symbol : Nonterminal Value) : Prop :=
  Parsing.Sound parser fun tokens node => Derives symbol tokens [node]

theorem derives_args {tokens : List Token} {nodes : List (AstNode Value)}
    (separated : Separated isComma (fun tokens node => Derives .expr tokens [node]) tokens nodes) :
    Derives .args tokens nodes := by
  induction separated with
  | one item => exact .lastArg item
  | more item separates _ hypothesis => exact .nextArg item separates hypothesis

theorem derives_tail {level : Level} {lhs node : AstNode Value} {tokens : List Token}
    (chained : Chain level.operator binaryNode (fun tokens node => Derives level.operand tokens [node])
      lhs tokens node) : Derives (.tail level lhs) tokens [node] := by
  induction chained with
  | done => exact .done
  | step operates operand _ hypothesis => exact .step operates operand hypothesis

theorem parseChain_reads {level : Level} {operand : TokenParser (AstNode Value)}
    (sound : Reads operand level.operand) :
    Reads (parseChain level.operator operand) (.chain level) := by
  intro tokens node rest read
  obtain ⟨⟨lhs, behind⟩, first, further⟩ := bind_eq_ok.mp read
  obtain ⟨used, rfl, known⟩ := sound _ _ _ first
  obtain ⟨others, rfl, chained⟩ := chain_sound sound _ _ _ _ _ further
  exact ⟨used ++ others, (List.append_assoc ..).symm, .chain known (derives_tail chained)⟩

variable (sound : Reads expr .expr)

include sound

theorem parseCallArgs_sound : Parsing.Sound (parseCallArgs expr) (Derives .callArgs) := by
  intro tokens nodes rest read
  obtain ⟨⟨left, inside⟩, opened, further⟩ := bind_eq_ok.mp read
  obtain ⟨⟨args, behind⟩, argsRead, further⟩ := bind_eq_ok.mp further
  obtain ⟨⟨right, after⟩, closed, same⟩ := bind_eq_ok.mp further
  obtain ⟨rfl, rfl⟩ := Prod.mk.inj (Except.ok.inj same)
  obtain ⟨rfl, opens⟩ := expect_eq_ok opened (by decide)
  obtain ⟨rfl, closes⟩ := expect_eq_ok closed (by decide)
  unfold parseArgs at argsRead
  split at argsRead
  · obtain ⟨rfl, rfl⟩ := Prod.mk.inj (Except.ok.inj argsRead)
    exact ⟨[left, right], rfl, .noArgs opens closes⟩
  · obtain ⟨used, rfl, inner⟩ := separated_sound sound _ _ _ _ argsRead
    exact ⟨left :: (used ++ [right]), by simp, .someArgs opens (derives_args inner) closes⟩

theorem parseNamed_sound {name : Token} (named : Is .ident name) :
    Parsing.Sound (parseNamed expr name.text) fun tokens node => Derives .primary (name :: tokens) [node] := by
  intro tokens node rest read
  unfold parseNamed at read
  split at read
  · rename_i grouped
    obtain ⟨keyword, sameKeyword, -, known⟩ := cons_of_isKeyword grouped
    obtain ⟨⟨labels, behind⟩, labelsRead, further⟩ := bind_eq_ok.mp read
    obtain ⟨⟨args, after⟩, argsRead, same⟩ := bind_eq_ok.mp further
    obtain ⟨rfl, rfl⟩ := Prod.mk.inj (Except.ok.inj same)
    obtain ⟨used, inside, list⟩ := parseLabelList_sound _ _ _ labelsRead
    obtain ⟨others, rfl, inner⟩ := parseCallArgs_sound sound _ _ _ argsRead
    refine ⟨keyword :: (used ++ others), ?_, .byCall named known list inner⟩
    rw [sameKeyword, inside]
    simp
  · split at read
    · obtain ⟨⟨args, behind⟩, argsRead, further⟩ := bind_eq_ok.mp read
      obtain ⟨used, rfl, inner⟩ := parseCallArgs_sound sound _ _ _ argsRead
      dsimp only at further
      split at further
      · rename_i grouped
        obtain ⟨keyword, sameKeyword, -, known⟩ := cons_of_isKeyword grouped
        obtain ⟨⟨labels, after⟩, labelsRead, same⟩ := bind_eq_ok.mp further
        obtain ⟨rfl, rfl⟩ := Prod.mk.inj (Except.ok.inj same)
        obtain ⟨others, inside, list⟩ := parseLabelList_sound _ _ _ labelsRead
        refine ⟨used ++ keyword :: others, ?_, .callBy named inner known list⟩
        rw [sameKeyword, inside]
        simp
      · obtain ⟨rfl, rfl⟩ := Prod.mk.inj (Except.ok.inj further)
        exact ⟨used, rfl, .call named inner⟩
    · obtain ⟨⟨matchers, behind⟩, matchersRead, further⟩ := bind_eq_ok.mp read
      obtain ⟨⟨duration, after⟩, windowRead, same⟩ := bind_eq_ok.mp further
      obtain ⟨rfl, rfl⟩ := Prod.mk.inj (Except.ok.inj same)
      obtain ⟨used, rfl, matched⟩ := parseSelectorMatchers_sound _ _ _ matchersRead
      obtain ⟨others, rfl, window⟩ := parseWindow_sound _ _ _ windowRead
      exact ⟨used ++ others, (List.append_assoc ..).symm, .selector named matched window⟩

theorem parsePrimary_reads : Reads (parsePrimary expr) .primary := by
  intro tokens node rest read
  unfold parsePrimary at read
  split at read
  · rename_i known
    obtain ⟨token, same, peeked, is⟩ := cons_of_peek known (by decide)
    rw [peeked] at read
    split at read
    · cases read
    · rename_i value denotes
      obtain ⟨rfl, rfl⟩ := Prod.mk.inj (Except.ok.inj read)
      exact ⟨[token], same, .number is denotes⟩
  · rename_i known
    obtain ⟨left, sameLeft, -, opens⟩ := cons_of_peek known (by decide)
    obtain ⟨⟨inner, behind⟩, innerRead, further⟩ := bind_eq_ok.mp read
    obtain ⟨⟨right, after⟩, closed, same⟩ := bind_eq_ok.mp further
    obtain ⟨rfl, rfl⟩ := Prod.mk.inj (Except.ok.inj same)
    obtain ⟨used, inside, derived⟩ := sound _ _ _ innerRead
    obtain ⟨rfl, closes⟩ := expect_eq_ok closed (by decide)
    refine ⟨left :: (used ++ [right]), ?_, .parens opens derived closes⟩
    rw [sameLeft, inside]
    simp
  · rename_i known
    obtain ⟨name, sameName, peeked, named⟩ := cons_of_peek known (by decide)
    rw [peeked] at read
    obtain ⟨used, inside, derived⟩ := parseNamed_sound sound named _ _ _ read
    refine ⟨name :: used, ?_, derived⟩
    rw [sameName, inside]
    rfl
  · cases read

theorem parseUnary_reads : Reads (parseUnary expr) .unaryExpr := by
  intro tokens node rest read
  unfold parseUnary at read
  split at read
  · rename_i known
    obtain ⟨token, sameToken, -, sign⟩ := cons_of_peek known (by decide)
    obtain ⟨⟨inner, behind⟩, innerRead, same⟩ := bind_eq_ok.mp read
    obtain ⟨rfl, rfl⟩ := Prod.mk.inj (Except.ok.inj same)
    obtain ⟨used, inside, derived⟩ := parsePrimary_reads sound _ _ _ innerRead
    refine ⟨token :: used, ?_, .minus sign derived⟩
    rw [sameToken, inside]
    rfl
  · obtain ⟨used, rfl, derived⟩ := parsePrimary_reads sound _ _ _ read
    exact ⟨used, rfl, .unsigned derived⟩

theorem parseAdd_reads : Reads (parseAdd expr) (.chain .add) := by
  have operand : Reads (parseMul expr) (.chain .mul) :=
    @parseChain_reads Value _ .mul _ (parseUnary_reads sound)
  exact @parseChain_reads Value _ .add _ operand

theorem parseCmp_reads : Reads (parseCmp expr) .cmpExpr := by
  intro tokens node rest read
  obtain ⟨⟨lhs, behind⟩, left, further⟩ := bind_eq_ok.mp read
  obtain ⟨used, rfl, derivedLeft⟩ := parseAdd_reads sound _ _ _ left
  dsimp only at further
  split at further
  · obtain ⟨rfl, rfl⟩ := Prod.mk.inj (Except.ok.inj further)
    exact ⟨used, rfl, .uncompared derivedLeft⟩
  · rename_i operator compares
    obtain ⟨⟨rhs, after⟩, right, same⟩ := bind_eq_ok.mp further
    obtain ⟨rfl, rfl⟩ := Prod.mk.inj (Except.ok.inj same)
    have inside : (peek behind).kind ≠ .eof := by
      intro ended
      have among := (operatorOf_eq_some_iff.mp compares).1
      rw [ended] at among
      exact absurd among (by decide)
    obtain ⟨token, sameToken, peeked, -⟩ := cons_of_peek rfl inside
    rw [peeked] at compares
    obtain ⟨others, same, derivedRight⟩ := parseAdd_reads sound _ _ _ right
    refine ⟨used ++ token :: others, ?_, .compared derivedLeft compares derivedRight⟩
    rw [sameToken, same]
    simp

theorem parseOr_reads : Reads (parseOr expr) (.chain .or) := by
  have operand : Reads (parseAnd expr) (.chain .and) :=
    @parseChain_reads Value _ .and _ (parseCmp_reads sound)
  exact @parseChain_reads Value _ .or _ operand

end Sound

theorem parseExpr_reads [RatCast Value] (bound : Nat) :
    Reads (parseExpr bound : TokenParser (AstNode Value)) .expr := by
  induction bound with
  | zero =>
    intro tokens node rest read
    cases read
  | succ bound hypothesis =>
    intro tokens node rest read
    obtain ⟨used, same, derived⟩ := parseOr_reads hypothesis _ _ _ read
    exact ⟨used, same, .expr derived⟩

/-! ### Where a nonterminal ends -/

/-- The token goes on with a name or a call: labels, arguments, matchers or a window. -/
def opensMore (token : Token) : Bool :=
  isKeyword "by" token || [TokenKind.lParen, .lBrace, .lBracket].contains token.kind

/-- The operators that go on with what a nonterminal derives. -/
def continuing : Nonterminal Value → List (Token → Option OperatorToken)
  | .unaryExpr | .primary | .callArgs => []
  | .chain .mul | .tail .mul _ => [Level.mul.operator]
  | .chain .add | .tail .add _ => [Level.mul.operator, Level.add.operator]
  | .cmpExpr => [Level.mul.operator, Level.add.operator, operatorOf comparisons]
  | .chain .and | .tail .and _ =>
    [Level.mul.operator, Level.add.operator, operatorOf comparisons, Level.and.operator]
  | .chain .or | .tail .or _ | .expr | .args =>
    [Level.mul.operator, Level.add.operator, operatorOf comparisons, Level.and.operator,
      Level.or.operator]

/-- The token cannot go on with what a nonterminal derives. -/
def Ends : Nonterminal Value → Token → Prop
  | .callArgs, _ => True
  | .args, token => opensMore token = false ∧ isComma token = false ∧
    ∀ operator ∈ continuing (.args : Nonterminal Value), operator token = none
  | symbol, token => opensMore token = false ∧ ∀ operator ∈ continuing symbol, operator token = none

section Ends

variable {level : Level} {token : Token} {lhs : AstNode Value}

theorem ends_tail : Ends (.tail level lhs) token ↔ Ends (.chain level : Nonterminal Value) token := by
  cases level <;> rfl

theorem ends_operand (ends : Ends (.chain level : Nonterminal Value) token) :
    Ends (level.operand : Nonterminal Value) token ∧ level.operator token = none := by
  cases level <;> simpa [Ends, continuing, Level.operand, and_assoc] using ends

theorem ends_of_operator {operator : OperatorToken} (operates : level.operator token = some operator) :
    Ends (level.operand : Nonterminal Value) token := by
  cases level with
  | or =>
    obtain ⟨keyword, among, known, -⟩ := keywordOf_eq_some operates
    have kind : token.kind = .ident := ident_of_isKeyword known
    have text : token.text.toLower = keyword := eq_of_beq (Bool.and_eq_true_iff.mp known).2
    simp only [List.mem_cons, List.not_mem_nil, or_false] at among
    rcases among with rfl | rfl <;>
      simp [Ends, continuing, Level.operand, Level.operator, opensMore, isKeyword, operatorOf, keywordOf,
        comparisons, kind, text]
  | and =>
    obtain ⟨keyword, among, known, -⟩ := keywordOf_eq_some operates
    have kind : token.kind = .ident := ident_of_isKeyword known
    have text : token.text.toLower = keyword := eq_of_beq (Bool.and_eq_true_iff.mp known).2
    obtain rfl := List.mem_singleton.mp among
    simp [Ends, continuing, Level.operand, Level.operator, opensMore, isKeyword, operatorOf,
      comparisons, kind, text]
  | add =>
    obtain ⟨among, -⟩ := operatorOf_eq_some_iff.mp operates
    simp only [List.mem_cons, List.not_mem_nil, or_false] at among
    rcases among with kind | kind <;>
      simp [Ends, continuing, Level.operand, Level.operator, opensMore, isKeyword, operatorOf, kind]
  | mul =>
    obtain ⟨among, -⟩ := operatorOf_eq_some_iff.mp operates
    simp only [List.mem_cons, List.not_mem_nil, or_false] at among
    rcases among with kind | kind <;>
      simp [Ends, continuing, Level.operand, opensMore, isKeyword, kind]

theorem ends_of_comparison {operator : OperatorToken}
    (compares : operatorOf comparisons token = some operator) :
    Ends (.chain .add : Nonterminal Value) token := by
  obtain ⟨among, -⟩ := operatorOf_eq_some_iff.mp compares
  simp only [comparisons, List.mem_cons, List.not_mem_nil, or_false] at among
  rcases among with kind | kind | kind | kind | kind | kind <;>
    simp [Ends, continuing, Level.operator, opensMore, isKeyword, operatorOf, kind]

theorem ends_of_closing (closing : token.kind ∈ [TokenKind.eof, .rParen, .comma]) :
    Ends (.expr : Nonterminal Value) token := by
  simp only [List.mem_cons, List.not_mem_nil, or_false] at closing
  rcases closing with kind | kind | kind <;>
    simp [Ends, continuing, Level.operator, opensMore, isKeyword, operatorOf, keywordOf, comparisons, kind]

theorem ends_args (closes : Is .rParen token) : Ends (.args : Nonterminal Value) token := by
  obtain ⟨more, operators⟩ := @ends_of_closing Value token (by rw [closes]; decide)
  refine ⟨more, ?_, operators⟩
  rw [isComma, closes]
  rfl

end Ends

/-! ### Completeness -/

section Complete

variable {tokens rest : List Token}

theorem parseLabel_complete (used : List Token) (name : String) (rest : List Token)
    (known : IsLabel used name) : parseLabel (used ++ rest) = .ok (name, rest) := by
  obtain ⟨token, rfl, is, rfl⟩ := known
  exact if_pos is

theorem parseMatcher_complete (used : List Token) (entry : String × String) (rest : List Token)
    (known : IsMatcher used entry) : parseMatcher (used ++ rest) = .ok (entry, rest) := by
  obtain ⟨name, assign, text, rfl, isName, isAssign, isText, rfl⟩ := known
  have labelRead : parseLabel ([name, assign, text] ++ rest) = .ok (name.text, assign :: text :: rest) :=
    if_pos isName
  rw [parseMatcher, labelRead]
  show (if assign.kind ≠ .assign then _ else if text.kind ≠ .string then _ else _) = _
  rw [if_neg (show ¬ assign.kind ≠ .assign from not_not.mpr isAssign),
    if_neg (show ¬ text.kind ≠ .string from not_not.mpr isText)]
  rfl

theorem not_isComma {kind : TokenKind} {token : Token} (is : Is kind token) (other : kind ≠ .comma) :
    ∀ found ∈ (token :: rest).head?, isComma found = false := by
  rintro found same
  obtain rfl := Option.some.inj same
  rw [isComma, is]
  exact decide_eq_false other

theorem peek_separated {Item : Type} {related : List Token → Item → Prop} {items : List Item}
    (known : Separated isComma related tokens items)
    (named : ∀ used item, related used item → ∃ token others, used = token :: others ∧ Is .ident token)
    (rest : List Token) : (peek (tokens ++ rest)).kind = .ident := by
  cases known with
  | one item =>
    obtain ⟨token, others, rfl, is⟩ := named _ _ item
    exact is
  | more item _ _ =>
    obtain ⟨token, others, rfl, is⟩ := named _ _ item
    exact is

theorem parseLabelList_complete {labels : List String} (known : LabelList tokens labels)
    (rest : List Token) : parseLabelList (tokens ++ rest) = .ok (labels, rest) := by
  cases known with
  | @none left right opens closes =>
    have opened : expect .lParen ([left, right] ++ rest) = .ok (left, right :: rest) := if_pos opens
    rw [parseLabelList, opened]
    exact if_pos closes
  | @some left right inner labels opens separated closes =>
    have opened : expect .lParen (left :: (inner ++ [right]) ++ rest) =
        .ok (left, inner ++ right :: rest) := by
      rw [List.cons_append, List.append_assoc]
      exact if_pos opens
    have first : (peek (inner ++ right :: rest)).kind = .ident := by
      refine peek_separated separated ?_ _
      rintro used name ⟨token, rfl, is, -⟩
      exact ⟨token, [], rfl, is⟩
    rw [parseLabelList, opened]
    show (if (peek (inner ++ right :: rest)).kind = .rParen then _ else _) = _
    rw [if_neg (by rw [first]; decide), separated_complete parseLabel_complete separated
      (not_isComma closes (by decide)) le_rfl]
    show (expect .rParen (right :: rest) >>= _) = _
    rw [expect_cons closes]
    rfl

theorem parseSelectorMatchers_complete {matchers : Labels} (known : SelectorMatchers tokens matchers)
    (closed : opensMore (peek rest) = false ∨ (peek rest).kind = .lBracket) :
    parseSelectorMatchers (tokens ++ rest) = .ok (matchers, rest) := by
  cases known with
  | absent =>
    refine if_neg fun braced => ?_
    have braced : (peek rest).kind = .lBrace := braced
    rcases closed with closed | closed
    · rw [opensMore, braced] at closed
      simp at closed
    · rw [closed] at braced
      cases braced
  | @none left right opens closes =>
    refine (if_pos opens).trans ?_
    exact if_pos closes
  | @some left right inner entries opens separated closes =>
    have first : (peek (inner ++ right :: rest)).kind = .ident := by
      refine peek_separated separated ?_ _
      rintro used entry ⟨name, assign, text, rfl, is, -⟩
      exact ⟨name, _, rfl, is⟩
    have inside : parseSelectorMatchers (left :: (inner ++ [right]) ++ rest) =
        parseLabelMatchers (inner ++ right :: rest) := by
      rw [List.cons_append, List.append_assoc]
      exact if_pos opens
    rw [inside, parseLabelMatchers, if_neg (by rw [first]; decide),
      separated_complete parseMatcher_complete separated (not_isComma closes (by decide)) le_rfl]
    show (expect .rBrace (right :: rest) >>= _) = _
    rw [expect_cons closes]
    rfl

theorem parseWindow_complete {duration : String} (known : SelectorWindow tokens duration)
    (closed : opensMore (peek rest) = false) : parseWindow (tokens ++ rest) = .ok (duration, rest) := by
  cases known with
  | absent =>
    refine if_neg fun bracketed => ?_
    have bracketed : (peek rest).kind = .lBracket := bracketed
    rw [opensMore, bracketed] at closed
    simp at closed
  | @given left token right opens known closes =>
    refine (if_pos opens).trans ?_
    refine (if_neg (not_not.mpr known)).trans ?_
    show (expect .rBracket (right :: rest) >>= _) = _
    rw [expect_cons closes]
    rfl

def single (parser : TokenParser (AstNode Value)) : TokenParser (List (AstNode Value)) := fun tokens =>
  (parser tokens).map fun (node, rest) => ([node], rest)

theorem single_eq_ok {parser : TokenParser (AstNode Value)} {node : AstNode Value} :
    single parser tokens = .ok ([node], rest) ↔ parser tokens = .ok (node, rest) := by
  unfold single
  cases parser tokens with
  | error failure => exact iff_of_false nofun nofun
  | ok read =>
    obtain ⟨other, others⟩ := read
    simp [Except.map]

variable [RatCast Value]

def Level.operandParser (expr : TokenParser (AstNode Value)) : Level → TokenParser (AstNode Value)
  | .or => parseAnd expr
  | .and => parseCmp expr
  | .add => parseMul expr
  | .mul => parseUnary expr

/-- The parser of each nonterminal. -/
def reader (bound loop : Nat) : Nonterminal Value → TokenParser (List (AstNode Value))
  | .expr => single (parseExpr (bound + 1))
  | .chain level => single (parseChain level.operator (level.operandParser (parseExpr bound)))
  | .tail level lhs =>
    single (chain level.operator binaryNode (level.operandParser (parseExpr bound)) loop lhs)
  | .cmpExpr => single (parseCmp (parseExpr bound))
  | .unaryExpr => single (parseUnary (parseExpr bound))
  | .primary => single (parsePrimary (parseExpr bound))
  | .callArgs => parseCallArgs (parseExpr bound)
  | .args => separated isComma (parseExpr (bound + 1)) loop

theorem reader_operand (bound loop : Nat) (level : Level) :
    reader bound loop level.operand =
      single (level.operandParser (parseExpr bound : TokenParser (AstNode Value))) := by
  cases level <;> rfl

/-- The reader of a nonterminal reads all of the tokens, up to what ends them. -/
def Complete (symbol : Nonterminal Value) (tokens : List Token) (nodes : List (AstNode Value)) : Prop :=
  ∀ bound loop rest, tokens.length ≤ bound → (tokens ++ rest).length ≤ loop → Ends symbol (peek rest) →
    reader bound loop symbol (tokens ++ rest) = .ok (nodes, rest)

theorem ends_operand_append {level : Level} {lhs : AstNode Value} {nodes : List (AstNode Value)}
    (others : Derives (.tail level lhs) tokens nodes)
    (ends : Ends (.chain level : Nonterminal Value) (peek rest)) :
    Ends (level.operand : Nonterminal Value) (peek (tokens ++ rest)) := by
  cases others with
  | done => exact (ends_operand ends).1
  | step operates _ _ => exact ends_of_operator operates

theorem complete_chain {level : Level} {used : List Token} {lhs node : AstNode Value}
    (first : Complete level.operand used [lhs]) (derived : Derives (.tail level lhs) tokens [node])
    (others : Complete (.tail level lhs) tokens [node]) :
    Complete (.chain level) (used ++ tokens) [node] := by
  intro bound loop rest enough enoughLoop ends
  rw [List.length_append] at enough
  have firstRead := first bound (used ++ (tokens ++ rest)).length (tokens ++ rest) (by omega) le_rfl
    (ends_operand_append derived ends)
  have othersRead := others bound (tokens ++ rest).length rest (by omega) le_rfl (ends_tail.mpr ends)
  rw [reader_operand] at firstRead
  refine single_eq_ok.mpr ?_
  rw [List.append_assoc, parseChain, single_eq_ok.mp firstRead]
  exact single_eq_ok.mp othersRead

theorem complete_step {level : Level} {token : Token} {used : List Token} {operator : OperatorToken}
    {lhs rhs node : AstNode Value} (operates : level.operator token = some operator)
    (operand : Complete level.operand used [rhs])
    (derived : Derives (.tail level (binaryNode operator lhs rhs)) tokens [node])
    (others : Complete (.tail level (binaryNode operator lhs rhs)) tokens [node]) :
    Complete (.tail level lhs) (token :: (used ++ tokens)) [node] := by
  intro bound loop rest enough enoughLoop ends
  simp only [List.length_append, List.length_cons] at enough enoughLoop
  obtain ⟨loop, rfl⟩ := Nat.exists_eq_add_one_of_ne_zero (show loop ≠ 0 by omega)
  have read := operand bound (used ++ (tokens ++ rest)).length (tokens ++ rest) (by omega) le_rfl
    (ends_operand_append derived (ends_tail.mp ends))
  rw [reader_operand] at read
  refine single_eq_ok.mpr ?_
  rw [List.cons_append, List.append_assoc, chain_step operates (single_eq_ok.mp read)]
  refine single_eq_ok.mp (others bound loop rest (by omega) ?_ (ends_tail.mpr (ends_tail.mp ends)))
  rw [List.length_append]
  omega

theorem complete_compared {token : Token} {used : List Token} {operator : OperatorToken}
    {lhs rhs : AstNode Value} (left : Complete (.chain .add) used [lhs])
    (compares : operatorOf comparisons token = some operator)
    (right : Complete (.chain .add) tokens [rhs]) :
    Complete .cmpExpr (used ++ token :: tokens) [binaryNode operator lhs rhs] := by
  intro bound loop rest enough enoughLoop ends
  simp only [List.length_append, List.length_cons] at enough
  have leftRead := left bound (used ++ (token :: tokens ++ rest)).length (token :: tokens ++ rest)
    (by omega) le_rfl (ends_of_comparison compares)
  have rightEnds : Ends (.chain .add : Nonterminal Value) (peek rest) := by
    obtain ⟨more, operators⟩ := ends
    refine ⟨more, fun found member => operators found ?_⟩
    exact List.mem_append_left [operatorOf comparisons] member
  have rightRead := right bound (tokens ++ rest).length rest (by omega) le_rfl rightEnds
  have leftRead : parseAdd (parseExpr bound) (used ++ (token :: tokens ++ rest)) = _ :=
    single_eq_ok.mp leftRead
  have rightRead : parseAdd (parseExpr bound) (tokens ++ rest) = _ := single_eq_ok.mp rightRead
  refine single_eq_ok.mpr ?_
  have known : operatorOf comparisons (peek (token :: tokens ++ rest)) = some _ := compares
  rw [List.append_assoc, parseCmp, leftRead]
  dsimp only [bind, Except.bind]
  rw [known]
  dsimp only [List.cons_append, List.tail_cons]
  rw [rightRead]

theorem parseCallArgs_complete {left right : Token} {nodes : List (AstNode Value)} {bound : Nat}
    (opens : Is .lParen left) (first : (peek (tokens ++ [right])).kind ≠ .rParen)
    (inner : Complete .args tokens nodes) (closes : Is .rParen right) (enough : tokens.length + 1 ≤ bound)
    (rest : List Token) :
    parseCallArgs (parseExpr bound) (left :: (tokens ++ right :: rest)) = .ok (nodes, rest) := by
  obtain ⟨bound, rfl⟩ := Nat.exists_eq_add_one_of_ne_zero (show bound ≠ 0 by omega)
  have innerRead : separated isComma (parseExpr (bound + 1)) (tokens ++ right :: rest).length
      (tokens ++ right :: rest) = .ok (nodes, right :: rest) :=
    inner bound _ (right :: rest) (by omega) le_rfl (ends_args closes)
  have same : (peek (tokens ++ right :: rest)).kind ≠ .rParen := by
    cases tokens with
    | nil => exact first
    | cons token others => exact first
  rw [parseCallArgs, expect_cons opens]
  show (parseArgs (parseExpr (bound + 1)) (tokens ++ right :: rest) >>= _) = _
  rw [parseArgs, if_neg same, innerRead]
  show (expect .rParen (right :: rest) >>= _) = _
  rw [expect_cons closes]
  rfl

theorem derives_head {symbol : Nonterminal Value} {nodes : List (AstNode Value)}
    (derived : Derives symbol tokens nodes) :
    match symbol with
    | .tail _ _ => True
    | _ => ∃ token others, tokens = token :: others ∧ token.kind ≠ .rParen := by
  have apart : ∀ {token : Token} {kind : TokenKind}, Is kind token → kind ≠ .rParen →
      token.kind ≠ .rParen := by
    intro token kind is other same
    exact other (is.symm.trans same)
  induction derived with
  | expr _ hypothesis => exact hypothesis
  | @chain level used rest lhs node _ _ first _ =>
    have head : ∃ token others, used = token :: others ∧ token.kind ≠ .rParen := by
      cases level <;> exact first
    obtain ⟨token, others, rfl, other⟩ := head
    exact ⟨token, others ++ rest, rfl, other⟩
  | done => trivial
  | step _ _ _ _ _ => trivial
  | uncompared _ hypothesis => exact hypothesis
  | compared _ _ _ left _ =>
    obtain ⟨token, others, rfl, other⟩ := left
    exact ⟨token, _, rfl, other⟩
  | unsigned _ hypothesis => exact hypothesis
  | minus sign _ _ => exact ⟨_, _, rfl, apart sign (by decide)⟩
  | number known _ => exact ⟨_, _, rfl, apart known (by decide)⟩
  | parens opens _ _ _ => exact ⟨_, _, rfl, apart opens (by decide)⟩
  | call named _ _ => exact ⟨_, _, rfl, apart named (by decide)⟩
  | callBy named _ _ _ _ => exact ⟨_, _, rfl, apart named (by decide)⟩
  | byCall named _ _ _ _ => exact ⟨_, _, rfl, apart named (by decide)⟩
  | selector named _ _ => exact ⟨_, _, rfl, apart named (by decide)⟩
  | noArgs opens _ => exact ⟨_, _, rfl, apart opens (by decide)⟩
  | someArgs opens _ _ _ => exact ⟨_, _, rfl, apart opens (by decide)⟩
  | lastArg _ hypothesis => exact hypothesis
  | nextArg _ _ _ first _ =>
    obtain ⟨token, others, rfl, other⟩ := first
    exact ⟨token, _, rfl, other⟩

theorem primary_head {nodes : List (AstNode Value)} (derived : Derives .primary tokens nodes) :
    ∃ token others, tokens = token :: others ∧ token.kind ≠ .minus := by
  have apart : ∀ {token : Token} {kind : TokenKind}, Is kind token → kind ≠ .minus →
      token.kind ≠ .minus := by
    intro token kind is other same
    exact other (is.symm.trans same)
  cases derived with
  | number known _ => exact ⟨_, _, rfl, apart known (by decide)⟩
  | parens opens _ _ => exact ⟨_, _, rfl, apart opens (by decide)⟩
  | call named _ => exact ⟨_, _, rfl, apart named (by decide)⟩
  | callBy named _ _ _ => exact ⟨_, _, rfl, apart named (by decide)⟩
  | byCall named _ _ _ => exact ⟨_, _, rfl, apart named (by decide)⟩
  | selector named _ _ => exact ⟨_, _, rfl, apart named (by decide)⟩

theorem complete_number {token : Token} {value : ℚ} (known : Is .number token)
    (denotes : parseFloat token.text = .ok value) :
    Complete .primary [token] [.number (value : Value)] := by
  intro bound loop rest _ _ _
  refine single_eq_ok.mpr ?_
  have kind : (peek ([token] ++ rest)).kind = .number := known
  have text : parseFloat (peek ([token] ++ rest)).text = .ok value := denotes
  rw [parsePrimary, kind]
  dsimp only
  rw [text]
  rfl

theorem complete_parens {left right : Token} {node : AstNode Value} (opens : Is .lParen left)
    (inner : Complete .expr tokens [node]) (closes : Is .rParen right) :
    Complete .primary (left :: (tokens ++ [right])) [node] := by
  intro bound loop rest enough _ _
  simp only [List.length_cons, List.length_append, List.length_nil] at enough
  obtain ⟨bound, rfl⟩ := Nat.exists_eq_add_one_of_ne_zero (show bound ≠ 0 by omega)
  have innerRead := inner bound _ (right :: rest) (by omega) le_rfl
    (ends_of_closing (by rw [show (peek (right :: rest)).kind = .rParen from closes]; decide))
  have innerRead : parseExpr (bound + 1) (tokens ++ right :: rest) = _ := single_eq_ok.mp innerRead
  refine single_eq_ok.mpr ?_
  rw [List.cons_append, List.append_assoc, parsePrimary,
    show (peek (left :: (tokens ++ ([right] ++ rest)))).kind = .lParen from opens]
  show (parseExpr (bound + 1) (tokens ++ right :: rest) >>= _) = _
  rw [innerRead]
  show (expect .rParen (right :: rest) >>= _) = _
  rw [expect_cons closes]
  rfl

theorem parsePrimary_named {name : Token} (named : Is .ident name) (expr : TokenParser (AstNode Value))
    (tokens : List Token) :
    parsePrimary expr (name :: tokens) = parseNamed expr name.text tokens := by
  rw [parsePrimary, show (peek (name :: tokens)).kind = .ident from named]
  rfl

theorem complete_noArgs {left right : Token} (opens : Is .lParen left) (closes : Is .rParen right) :
    Complete (.callArgs : Nonterminal Value) [left, right] [] := by
  intro bound loop rest _ _ _
  show parseCallArgs (parseExpr bound) (left :: right :: rest) = _
  rw [parseCallArgs, expect_cons opens]
  show (parseArgs (parseExpr bound) (right :: rest) >>= _) = _
  rw [parseArgs, if_pos (show (peek (right :: rest)).kind = .rParen from closes)]
  show (expect .rParen (right :: rest) >>= _) = _
  rw [expect_cons closes]
  rfl

theorem complete_someArgs {left right : Token} {nodes : List (AstNode Value)} (opens : Is .lParen left)
    (derived : Derives .args tokens nodes) (inner : Complete .args tokens nodes)
    (closes : Is .rParen right) : Complete .callArgs (left :: (tokens ++ [right])) nodes := by
  intro bound loop rest enough _ _
  simp only [List.length_cons, List.length_append, List.length_nil] at enough
  obtain ⟨token, others, rfl, other⟩ := derives_head derived
  show parseCallArgs (parseExpr bound) (left :: (token :: others ++ [right] ++ rest)) = _
  rw [List.append_assoc]
  exact parseCallArgs_complete opens (show (peek (token :: others ++ [right])).kind ≠ .rParen from other)
    inner closes (by omega) rest

theorem callArgs_head {nodes : List (AstNode Value)} (derived : Derives .callArgs tokens nodes) :
    ∃ left others, tokens = left :: others ∧ Is .lParen left := by
  cases derived with
  | noArgs opens _ => exact ⟨_, _, rfl, opens⟩
  | someArgs opens _ _ => exact ⟨_, _, rfl, opens⟩

theorem parseNamed_call {nodes : List (AstNode Value)} {bound : Nat}
    (derived : Derives .callArgs tokens nodes) (inner : Complete .callArgs tokens nodes)
    (enough : tokens.length ≤ bound) (name : String) (rest : List Token) :
    parseNamed (parseExpr bound) name (tokens ++ rest) =
      (if isKeyword "by" (peek rest) then do
        let (labels, rest) ← parseLabelList rest.tail
        .ok (.funcCall name nodes labels, rest)
      else .ok (.funcCall name nodes [], rest)) := by
  have read := inner bound _ rest enough le_rfl trivial
  obtain ⟨left, others, rfl, opens⟩ := callArgs_head derived
  have plain : ¬ isKeyword "by" left = true := by
    intro keyword
    exact absurd (opens.symm.trans (ident_of_isKeyword keyword)) (by decide)
  rw [parseNamed, if_neg (show ¬ isKeyword "by" (peek (left :: others ++ rest)) = true from plain),
    if_pos (show (peek (left :: others ++ rest)).kind = .lParen from opens)]
  show (parseCallArgs (parseExpr bound) (left :: others ++ rest) >>= _) = _
  rw [show parseCallArgs (parseExpr bound) (left :: others ++ rest) = _ from read]
  rfl

theorem complete_call {name : Token} {nodes : List (AstNode Value)} (named : Is .ident name)
    (derived : Derives .callArgs tokens nodes) (inner : Complete .callArgs tokens nodes) :
    Complete .primary (name :: tokens) [.funcCall name.text nodes []] := by
  intro bound loop rest enough _ ends
  rw [List.length_cons] at enough
  have plain : ¬ isKeyword "by" (peek rest) = true := by
    rw [Bool.not_eq_true]
    exact (Bool.or_eq_false_iff.mp ends.1).1
  refine single_eq_ok.mpr ?_
  rw [List.cons_append, parsePrimary_named named, parseNamed_call derived inner (by omega), if_neg plain]

theorem complete_callBy {name keyword : Token} {used : List Token} {nodes : List (AstNode Value)}
    {labels : List String} (named : Is .ident name) (derived : Derives .callArgs tokens nodes)
    (inner : Complete .callArgs tokens nodes) (grouped : isKeyword "by" keyword = true)
    (list : LabelList used labels) :
    Complete .primary (name :: (tokens ++ keyword :: used)) [.funcCall name.text nodes labels] := by
  intro bound loop rest enough _ _
  simp only [List.length_cons, List.length_append] at enough
  refine single_eq_ok.mpr ?_
  rw [List.cons_append, List.append_assoc, parsePrimary_named named,
    parseNamed_call derived inner (by omega), List.cons_append,
    if_pos (show isKeyword "by" (peek (keyword :: (used ++ rest))) = true from grouped)]
  show (parseLabelList (used ++ rest) >>= _) = _
  rw [parseLabelList_complete list]
  rfl

theorem complete_byCall {name keyword : Token} {used : List Token} {nodes : List (AstNode Value)}
    {labels : List String} (named : Is .ident name) (grouped : isKeyword "by" keyword = true)
    (list : LabelList used labels) (inner : Complete .callArgs tokens nodes) :
    Complete .primary (name :: keyword :: (used ++ tokens)) [.funcCall name.text nodes labels] := by
  intro bound loop rest enough _ _
  simp only [List.length_cons, List.length_append] at enough
  have read := inner bound _ rest (by omega) le_rfl trivial
  refine single_eq_ok.mpr ?_
  rw [List.cons_append, List.cons_append, parsePrimary_named named, parseNamed,
    if_pos (show isKeyword "by" (peek (keyword :: (used ++ tokens ++ rest))) = true from grouped),
    List.append_assoc]
  show (parseLabelList (used ++ (tokens ++ rest)) >>= _) = _
  rw [parseLabelList_complete list]
  show (parseCallArgs (parseExpr bound) (tokens ++ rest) >>= _) = _
  rw [show parseCallArgs (parseExpr bound) (tokens ++ rest) = _ from read]
  rfl

theorem selector_head {used : List Token} {matchers : Labels} {duration : String}
    (matched : SelectorMatchers tokens matchers) (window : SelectorWindow used duration)
    (closed : opensMore (peek rest) = false) :
    isKeyword "by" (peek (tokens ++ (used ++ rest))) = false ∧
      (peek (tokens ++ (used ++ rest))).kind ≠ .lParen := by
  have other : ∀ {token : Token} {kind : TokenKind}, Is kind token → kind ≠ .ident → kind ≠ .lParen →
      isKeyword "by" token = false ∧ token.kind ≠ .lParen := by
    intro token kind is noName noCall
    refine ⟨?_, fun same => noCall (is.symm.trans same)⟩
    by_contra known
    exact noName (is.symm.trans (ident_of_isKeyword (Bool.not_eq_false _ ▸ known)))
  cases matched with
  | absent =>
    cases window with
    | absent =>
      obtain ⟨plain, kinds⟩ := Bool.or_eq_false_iff.mp closed
      refine ⟨plain, fun same => ?_⟩
      have same : (peek rest).kind = .lParen := same
      rw [same] at kinds
      simp at kinds
    | given opens _ _ => exact other opens (by decide) (by decide)
  | none opens _ => exact other opens (by decide) (by decide)
  | some opens _ _ => exact other opens (by decide) (by decide)

theorem complete_selector {name : Token} {used : List Token} {matchers : Labels} {duration : String}
    (named : Is .ident name) (matched : SelectorMatchers tokens matchers)
    (window : SelectorWindow used duration) :
    Complete (.primary : Nonterminal Value) (name :: (tokens ++ used))
      [.vectorSelector { name := name.text, matchers, duration }] := by
  intro bound loop rest _ _ ends
  obtain ⟨plain, noCall⟩ := selector_head matched window ends.1
  have closed : opensMore (peek (used ++ rest)) = false ∨ (peek (used ++ rest)).kind = .lBracket := by
    cases window with
    | absent => exact Or.inl ends.1
    | given opens _ _ => exact Or.inr opens
  refine single_eq_ok.mpr ?_
  rw [List.cons_append, List.append_assoc, parsePrimary_named named, parseNamed, plain,
    if_neg Bool.false_ne_true, if_neg noCall, parseSelectorMatchers_complete matched closed]
  show (parseWindow (used ++ rest) >>= _) = _
  rw [parseWindow_complete window ends.1]
  rfl

theorem complete_of_derives {symbol : Nonterminal Value} {nodes : List (AstNode Value)}
    (derived : Derives symbol tokens nodes) : Complete symbol tokens nodes := by
  induction derived with
  | expr _ inner =>
    intro bound loop rest enough _ ends
    exact inner bound _ rest enough le_rfl ends
  | chain _ derived first others => exact complete_chain first derived others
  | @done level lhs =>
    intro bound loop rest _ _ ends
    refine single_eq_ok.mpr (chain_done fun token found => ?_)
    exact peek_of_head found ▸ (ends_operand (ends_tail.mp ends)).2
  | step operates _ derived operand others => exact complete_step operates operand derived others
  | @uncompared used node _ inner =>
    intro bound loop rest enough _ ends
    obtain ⟨more, operators⟩ := ends
    have left : Ends (.chain .add : Nonterminal Value) (peek rest) :=
      ⟨more, fun found member => operators found (List.mem_append_left [operatorOf comparisons] member)⟩
    have read : parseAdd (parseExpr bound) (used ++ rest) = .ok (node, rest) :=
      single_eq_ok.mp (inner bound _ rest enough le_rfl left)
    refine single_eq_ok.mpr ?_
    rw [parseCmp, read]
    dsimp only [bind, Except.bind]
    rw [operators (operatorOf comparisons) (by simp [continuing])]
  | compared _ compares _ left right => exact complete_compared left compares right
  | @unsigned used node derived inner =>
    intro bound loop rest enough _ ends
    have read : parsePrimary (parseExpr bound) (used ++ rest) = .ok (node, rest) :=
      single_eq_ok.mp (inner bound _ rest enough le_rfl ends)
    obtain ⟨token, others, rfl, plain⟩ := primary_head derived
    refine single_eq_ok.mpr ?_
    rw [parseUnary, if_neg (show ¬ (peek (token :: others ++ rest)).kind = .minus from plain), read]
  | @minus token used node sign _ inner =>
    intro bound loop rest enough _ ends
    rw [List.length_cons] at enough
    have read : parsePrimary (parseExpr bound) (used ++ rest) = .ok (node, rest) :=
      single_eq_ok.mp (inner bound _ rest (by omega) le_rfl ends)
    refine single_eq_ok.mpr ?_
    rw [parseUnary, if_pos (show (peek (token :: used ++ rest)).kind = .minus from sign)]
    show (parsePrimary (parseExpr bound) (used ++ rest) >>= _) = _
    rw [read]
    rfl
  | number known denotes => exact complete_number known denotes
  | parens opens _ closes inner => exact complete_parens opens inner closes
  | call named derived inner => exact complete_call named derived inner
  | callBy named derived grouped list inner => exact complete_callBy named derived inner grouped list
  | byCall named grouped list _ inner => exact complete_byCall named grouped list inner
  | selector named matched window => exact complete_selector named matched window
  | noArgs opens closes => exact complete_noArgs opens closes
  | someArgs opens derived closes inner => exact complete_someArgs opens derived inner closes
  | lastArg _ inner =>
    intro bound loop rest enough _ ends
    obtain ⟨more, noComma, operators⟩ := ends
    refine separated_one (single_eq_ok.mp (inner bound _ rest enough le_rfl ⟨more, operators⟩)) ?_
    intro token found
    exact peek_of_head found ▸ noComma
  | @nextArg token used others node nodes _ separates _ inner further =>
    intro bound loop rest enough enoughLoop ends
    simp only [List.length_append, List.length_cons] at enough enoughLoop
    obtain ⟨loop, rfl⟩ := Nat.exists_eq_add_one_of_ne_zero (show loop ≠ 0 by omega)
    have comma := comma_of_isComma separates
    have read := inner bound _ (token :: (others ++ rest)) (by omega) le_rfl
      (ends_of_closing (by rw [show (peek (token :: (others ++ rest))).kind = .comma from comma]; decide))
    rw [List.append_assoc, List.cons_append]
    refine separated_more (single_eq_ok.mp read) separates (further bound loop rest (by omega) ?_ ends)
    rw [List.length_append]
    omega

end Complete

/-! ### The end of the input -/

/-- None of the tokens is the end of the input. -/
def Inside (tokens : List Token) : Prop :=
  ∀ token ∈ tokens, token.kind ≠ .eof

section Inside

variable {tokens rest : List Token} {token : Token} {kind : TokenKind}

@[simp] theorem inside_nil : Inside [] :=
  fun _ member => absurd member List.not_mem_nil

@[simp] theorem inside_cons : Inside (token :: tokens) ↔ token.kind ≠ .eof ∧ Inside tokens :=
  List.forall_mem_cons

@[simp] theorem inside_append : Inside (tokens ++ rest) ↔ Inside tokens ∧ Inside rest :=
  List.forall_mem_append

theorem Is.inside (is : Is kind token) (other : kind ≠ .eof) : token.kind ≠ .eof :=
  fun ended => other (is.symm.trans ended)

theorem inside_separated {Item : Type} {related : List Token → Item → Prop} {items : List Item}
    (known : Separated isComma related tokens items)
    (inside : ∀ used item, related used item → Inside used) : Inside tokens := by
  induction known with
  | one item => exact inside _ _ item
  | more item separates _ hypothesis =>
    have comma := comma_of_isComma separates
    exact inside_append.mpr
      ⟨inside _ _ item, inside_cons.mpr ⟨comma.inside (by decide), hypothesis⟩⟩

theorem LabelList.inside {labels : List String} (list : LabelList tokens labels) : Inside tokens := by
  cases list with
  | none opens closes => simp [opens.inside, closes.inside]
  | some opens inner closes =>
    have between := inside_separated inner <| by
      rintro used name ⟨label, rfl, is, -⟩
      simp [is.inside]
    simp [opens.inside, closes.inside, between]

theorem SelectorMatchers.inside {matchers : Labels} (matched : SelectorMatchers tokens matchers) :
    Inside tokens := by
  cases matched with
  | absent => exact inside_nil
  | none opens closes => simp [opens.inside, closes.inside]
  | some opens inner closes =>
    have between := inside_separated inner <| by
      rintro used entry ⟨name, assign, text, rfl, isName, isAssign, isText, -⟩
      simp [isName.inside, isAssign.inside, isText.inside]
    simp [opens.inside, closes.inside, between]

theorem SelectorWindow.inside {duration : String} (window : SelectorWindow tokens duration) :
    Inside tokens := by
  cases window with
  | absent => exact inside_nil
  | given opens known closes => simp [opens.inside, known.inside, closes.inside]

theorem inside_of_operatorOf {kinds : List TokenKind} {operator : OperatorToken}
    (operates : operatorOf kinds token = some operator) (other : .eof ∉ kinds) : token.kind ≠ .eof :=
  fun ended => other (ended ▸ (operatorOf_eq_some_iff.mp operates).1)

theorem inside_of_operator {level : Level} {operator : OperatorToken}
    (operates : level.operator token = some operator) : token.kind ≠ .eof := by
  cases level with
  | or =>
    obtain ⟨keyword, -, known, -⟩ := keywordOf_eq_some operates
    exact (ident_of_isKeyword known).inside (by decide)
  | and =>
    obtain ⟨keyword, -, known, -⟩ := keywordOf_eq_some operates
    exact (ident_of_isKeyword known).inside (by decide)
  | add => exact inside_of_operatorOf operates (by decide)
  | mul => exact inside_of_operatorOf operates (by decide)

theorem Derives.inside [RatCast Value] {symbol : Nonterminal Value} {nodes : List (AstNode Value)}
    (derived : Derives symbol tokens nodes) : Inside tokens := by
  induction derived with
  | expr _ inner => exact inner
  | chain _ _ first others => exact inside_append.mpr ⟨first, others⟩
  | done => exact inside_nil
  | step operates _ _ operand others => simp [inside_of_operator operates, operand, others]
  | uncompared _ inner => exact inner
  | compared _ compares _ left right =>
    simp [inside_of_operatorOf compares (by decide), left, right]
  | unsigned _ inner => exact inner
  | minus sign _ inner => simp [sign.inside, inner]
  | number known _ => simp [known.inside]
  | parens opens _ closes inner => simp [opens.inside, closes.inside, inner]
  | call named _ inner => simp [named.inside, inner]
  | callBy named _ grouped list inner =>
    simp [named.inside, (ident_of_isKeyword grouped).inside, list.inside, inner]
  | byCall named grouped list _ inner =>
    simp [named.inside, (ident_of_isKeyword grouped).inside, list.inside, inner]
  | selector named matched window => simp [named.inside, matched.inside, window.inside]
  | noArgs opens closes => simp [opens.inside, closes.inside]
  | someArgs opens _ closes inner => simp [opens.inside, closes.inside, inner]
  | lastArg _ inner => exact inner
  | nextArg _ separates _ inner others =>
    have comma := comma_of_isComma separates
    simp [comma.inside, inner, others]

theorem split_at_end {used body : List Token} {last : Token} (same : used ++ rest = body ++ [last])
    (usedInside : Inside used) (bodyInside : Inside body) (ended : last.kind = .eof)
    (stands : (peek rest).kind = .eof) : used = body ∧ rest = [last] := by
  cases rest with
  | nil =>
    rw [List.append_nil] at same
    exact absurd ended (usedInside last (same ▸ List.mem_append_right _ (List.mem_singleton_self last)))
  | cons token others =>
    have first : token.kind = .eof := stands
    rcases List.append_eq_append_iff.mp same with ⟨between, rfl, ends⟩ | ⟨between, rfl, ends⟩
    · cases between with
      | nil => exact ⟨(List.append_nil _).symm, ends⟩
      | cons other between =>
        obtain ⟨rfl, -⟩ := List.cons.inj ends
        exact absurd first (bodyInside token (List.mem_append_right _ List.mem_cons_self))
    · cases between with
      | nil => exact ⟨List.append_nil _, ends.symm⟩
      | cons other between =>
        obtain ⟨rfl, -⟩ := List.cons.inj ends
        exact absurd ended (usedInside last (List.mem_append_right _ List.mem_cons_self))

end Inside

theorem tokenizeFrom_ends {bound pos : Nat} {chars : List Char} {tokens : List Token}
    (lexed : tokenizeFrom bound pos chars = .ok tokens) :
    ∃ body last, tokens = body ++ [last] ∧ Inside body ∧ last.kind = .eof := by
  induction bound generalizing pos chars tokens with
  | zero =>
    obtain rfl := Except.ok.inj lexed
    exact ⟨[], _, rfl, inside_nil, rfl⟩
  | succ bound hypothesis =>
    obtain ⟨⟨token, after, rest⟩, -, further⟩ := bind_eq_ok.mp lexed
    dsimp only at further
    split at further
    · rename_i ended
      obtain rfl := Except.ok.inj further
      exact ⟨[], token, rfl, inside_nil, ended⟩
    · rename_i inside
      obtain ⟨others, othersLexed, same⟩ := bind_eq_ok.mp further
      obtain rfl := Except.ok.inj same
      obtain ⟨body, last, rfl, bodyInside, ended⟩ := hypothesis othersLexed
      exact ⟨token :: body, last, rfl, inside_cons.mpr ⟨inside, bodyInside⟩, ended⟩

/-- The parser accepts exactly what the grammar derives. -/
theorem parsePromQL_eq_ok_iff [RatCast Value] {src : String} {tokens : List Token}
    (lexed : tokenize src = .ok tokens) (node : AstNode Value) :
    parsePromQL src = .ok node ↔ Derives .expr tokens.dropLast [node] := by
  obtain ⟨body, last, rfl, bodyInside, ended⟩ := tokenizeFrom_ends lexed
  rw [List.dropLast_concat]
  constructor
  · intro parsed
    obtain ⟨tokens, same, further⟩ := bind_eq_ok.mp parsed
    obtain rfl := Except.ok.inj (lexed.symm.trans same)
    obtain ⟨⟨found, rest⟩, read, further⟩ := bind_eq_ok.mp further
    dsimp only at further
    split at further
    · cases further
    · rename_i stands
      obtain rfl := Except.ok.inj further
      obtain ⟨used, split, derived⟩ := parseExpr_reads _ _ _ _ read
      obtain ⟨rfl, -⟩ := split_at_end split.symm derived.inside bodyInside ended (not_not.mp stands)
      exact derived
  · intro derived
    have stands : (peek [last]).kind = .eof := ended
    have read := complete_of_derives derived body.length (body ++ [last]).length [last] le_rfl le_rfl
      (ends_of_closing (by rw [stands]; decide))
    have read : parseExpr (body.length + 1) (body ++ [last]) = .ok (node, [last]) :=
      single_eq_ok.mp read
    rw [parsePromQL, lexed]
    show (parseExpr (body ++ [last]).length (body ++ [last]) >>= _) = _
    rw [List.length_append, List.length_singleton, read]
    exact if_neg (not_not.mpr stands)

end Slo

end MqConnector
