/-
This file models the parser of the alerting expressions, `parsePromQL`.

The parser is one of recursive descent. Every production that nests an expression is
given the parser of expressions, and `parseExpr` ties the knot: it is bounded by the
number of tokens.
-/

import MqConnector.Parsing
import MqConnector.Tokens

namespace MqConnector

namespace Slo

open Parsing

/-! ### Tokens -/

/-- A parser of tokens, with a message when it fails. -/
abbrev TokenParser (Value : Type) := Parser Token String Value

/-- The next token, or the end. -/
def peek (tokens : List Token) : Token :=
  tokens.head?.getD ⟨.eof, "", 0⟩

/-- A token of one kind. -/
def expect (kind : TokenKind) : TokenParser Token := fun tokens =>
  if (peek tokens).kind = kind then .ok (peek tokens, tokens.tail)
  else .error ("expected token kind " ++ toString kind.ctorIdx ++ ", got \"" ++ (peek tokens).text ++
    "\" at pos " ++ toString (peek tokens).pos)

/-- The token is this keyword, in letters of any case. -/
def isKeyword (keyword : String) (token : Token) : Bool :=
  decide (token.kind = .ident) && token.text.toLower == keyword

def isComma (token : Token) : Bool :=
  decide (token.kind = .comma)

def unexpectedToken (token : Token) : String :=
  "unexpected token \"" ++ token.text ++ "\" at pos " ++ toString token.pos

/-! ### Labels -/

/-- The name of a label. -/
def parseLabel : TokenParser String := fun tokens =>
  if (peek tokens).kind = .ident then .ok ((peek tokens).text, tokens.tail)
  else .error ("expected label name at pos " ++ toString (peek tokens).pos)

/-- The labels behind `by`. -/
def parseLabelList : TokenParser (List String) := fun tokens => do
  let (_, rest) ← expect .lParen tokens
  if (peek rest).kind = .rParen then .ok ([], rest.tail)
  else do
    let (labels, rest) ← separated isComma parseLabel rest.length rest
    let (_, rest) ← expect .rParen rest
    .ok (labels, rest)

/-- A label with its text. -/
def parseMatcher : TokenParser (String × String) := fun tokens => do
  let (name, rest) ← parseLabel tokens
  if (peek rest).kind ≠ .assign then
    .error ("only `=` matchers supported (at pos " ++ toString (peek tokens).pos ++ ")")
  else if (peek rest.tail).kind ≠ .string then
    .error ("expected string value at pos " ++ toString (peek rest.tail).pos)
  else .ok ((name, (peek rest.tail).text), rest.tail.tail)

/-- The map of the matchers; the last one of a name counts. -/
def matchersOf (entries : List (String × String)) : Labels :=
  entries.foldl (fun matchers entry => matchers.insert entry.1 entry.2) ∅

/-- The matchers between braces. -/
def parseLabelMatchers : TokenParser Labels := fun tokens =>
  if (peek tokens).kind = .rBrace then .ok (∅, tokens.tail)
  else do
    let (entries, rest) ← separated isComma parseMatcher tokens.length tokens
    let (_, rest) ← expect .rBrace rest
    .ok (matchersOf entries, rest)

/-! ### Expressions -/

section Expressions

variable {Value : Type} [RatCast Value] (expr : TokenParser (AstNode Value))

/-- The arguments of a call. -/
def parseArgs : TokenParser (List (AstNode Value)) := fun tokens =>
  if (peek tokens).kind = .rParen then .ok ([], tokens)
  else separated isComma expr tokens.length tokens

/-- The arguments of a call with the parentheses. -/
def parseCallArgs : TokenParser (List (AstNode Value)) := fun tokens => do
  let (_, rest) ← expect .lParen tokens
  let (args, rest) ← parseArgs expr rest
  let (_, rest) ← expect .rParen rest
  .ok (args, rest)

/-- The matchers of a selector, if there are some. -/
def parseSelectorMatchers : TokenParser Labels := fun tokens =>
  if (peek tokens).kind = .lBrace then parseLabelMatchers tokens.tail else .ok (∅, tokens)

/-- The window of a selector, if there is one. -/
def parseWindow : TokenParser String := fun tokens =>
  if (peek tokens).kind = .lBracket then
    if (peek tokens.tail).kind ≠ .duration then
      .error ("expected duration after '[' at pos " ++ toString (peek tokens.tail).pos)
    else do
      let (_, rest) ← expect .rBracket tokens.tail.tail
      .ok ((peek tokens.tail).text, rest)
  else .ok ("", tokens)

/-- What a name starts: a call with its labels before or behind the arguments, or a selector. -/
def parseNamed (name : String) : TokenParser (AstNode Value) := fun tokens =>
  if isKeyword "by" (peek tokens) then do
    let (labels, rest) ← parseLabelList tokens.tail
    let (args, rest) ← parseCallArgs expr rest
    .ok (.funcCall name args labels, rest)
  else if (peek tokens).kind = .lParen then do
    let (args, rest) ← parseCallArgs expr tokens
    if isKeyword "by" (peek rest) then do
      let (labels, rest) ← parseLabelList rest.tail
      .ok (.funcCall name args labels, rest)
    else .ok (.funcCall name args [], rest)
  else do
    let (matchers, rest) ← parseSelectorMatchers tokens
    let (duration, rest) ← parseWindow rest
    .ok (.vectorSelector { name, matchers, duration }, rest)

/-- A number, a text, a selector, a call or an expression in parentheses. -/
def parsePrimary : TokenParser (AstNode Value) := fun tokens =>
  match (peek tokens).kind with
  | .number =>
    match parseFloat (peek tokens).text with
    | .error failure => .error ("bad number \"" ++ (peek tokens).text ++ "\" at pos " ++
        toString (peek tokens).pos ++ ": " ++ failure)
    | .ok value => .ok (.number (value : Value), tokens.tail)
  | .lParen => do
    let (inner, rest) ← expr tokens.tail
    let (_, rest) ← expect .rParen rest
    .ok (inner, rest)
  | .ident => parseNamed expr (peek tokens).text tokens.tail
  | _ => .error (unexpectedToken (peek tokens))

/-- A primary with at most one sign. -/
def parseUnary : TokenParser (AstNode Value) := fun tokens =>
  if (peek tokens).kind = .minus then do
    let (inner, rest) ← parsePrimary expr tokens.tail
    .ok (.unaryMinus inner, rest)
  else parsePrimary expr tokens

/-- An operator of the tree: its token, and its text. -/
abbrev OperatorToken := TokenKind × String

def binaryNode (operator : OperatorToken) (lhs rhs : AstNode Value) : AstNode Value :=
  .binary operator.1 operator.2 lhs rhs

/-- A token of one of these kinds is an operator. -/
def operatorOf (kinds : List TokenKind) (token : Token) : Option OperatorToken :=
  if kinds.contains token.kind then some (token.kind, token.text) else none

/-- A keyword among these is an operator; the tree has no token for it. -/
def keywordOf (keywords : List String) (token : Token) : Option OperatorToken :=
  (keywords.find? fun keyword => isKeyword keyword token).map fun keyword => (.eof, keyword)

/-- A loop over operands and operators. -/
def parseChain (operator : Token → Option OperatorToken) (operand : TokenParser (AstNode Value)) :
    TokenParser (AstNode Value) := fun tokens => do
  let (lhs, rest) ← operand tokens
  chain operator binaryNode operand rest.length lhs rest

/-- Products and quotients. -/
def parseMul : TokenParser (AstNode Value) :=
  parseChain (operatorOf [.star, .slash]) (parseUnary expr)

/-- Sums and differences. -/
def parseAdd : TokenParser (AstNode Value) :=
  parseChain (operatorOf [.plus, .minus]) (parseMul expr)

def comparisons : List TokenKind :=
  [.eq, .neq, .gt, .gte, .lt, .lte]

/-- At most one comparison. -/
def parseCmp : TokenParser (AstNode Value) := fun tokens => do
  let (lhs, rest) ← parseAdd expr tokens
  match operatorOf comparisons (peek rest) with
  | none => .ok (lhs, rest)
  | some operator => do
    let (rhs, rest) ← parseAdd expr rest.tail
    .ok (binaryNode operator lhs rhs, rest)

/-- Comparisons joined by `and`. -/
def parseAnd : TokenParser (AstNode Value) :=
  parseChain (keywordOf ["and"]) (parseCmp expr)

/-- The loosest operators. -/
def parseOr : TokenParser (AstNode Value) :=
  parseChain (keywordOf ["or", "unless"]) (parseAnd expr)

end Expressions

variable {Value : Type} [RatCast Value]

/-- `parseExpr`, for as many nested expressions as there are tokens. -/
def parseExpr : Nat → TokenParser (AstNode Value)
  | 0 => fun tokens => .error (unexpectedToken (peek tokens))
  | bound + 1 => parseOr (parseExpr bound)

/-- `ParsePromQL`: one expression and nothing behind it. -/
def parsePromQL (src : String) : Except String (AstNode Value) := do
  let tokens ← tokenize src
  let (node, rest) ← parseExpr tokens.length tokens
  if (peek rest).kind ≠ .eof then
    .error ("trailing input at pos " ++ toString (peek rest).pos ++ ": \"" ++ (peek rest).text ++ "\"")
  else .ok node

end Slo

end MqConnector
