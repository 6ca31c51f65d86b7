/-
This file models the lexer of the alerting expressions.

The source is lexed byte by byte; here it is a list of characters, and positions count
bytes. The two agree on every text: outside of a string no byte of a character beyond
ASCII is a space, a digit or a letter of a name, and the first of them is refused.
-/

import MqConnector.Expressions

namespace MqConnector

namespace Slo

/-- A token with its place. -/
structure Token where
  kind : TokenKind
  text : String
  pos : Nat
  deriving DecidableEq

/-! ### Characters -/

/-- `unicode.IsSpace` of a byte that starts a character. -/
def isSpace (char : Char) : Bool :=
  [' ', '\t', '\n', '\x0b', '\x0c', '\r'].contains char

def isDigit (char : Char) : Bool :=
  '0' ≤ char && char ≤ '9'

def isIdentStart (char : Char) : Bool :=
  'a' ≤ char && char ≤ 'z' || 'A' ≤ char && char ≤ 'Z' || char = '_'

def isIdentPart (char : Char) : Bool :=
  isIdentStart char || isDigit char

/-- The tokens of a single character that starts no other token. -/
def punctuation : Char → Option TokenKind
  | '(' => some .lParen
  | ')' => some .rParen
  | '\x7b' => some .lBrace
  | '\x7d' => some .rBrace
  | '[' => some .lBracket
  | ']' => some .rBracket
  | ',' => some .comma
  | '+' => some .plus
  | '-' => some .minus
  | '*' => some .star
  | '/' => some .slash
  | _ => none

/-- The units of a duration, each a character. -/
def isUnit (char : Char) : Bool :=
  ['s', 'm', 'h', 'd', 'w', 'y'].contains char

/-! ### Strings, numbers and names -/

/-- `readString` after the opening quote: the text, and what follows the closing one. A backslash
stands before a character that is taken as it is. -/
def scanString : List Char → Option (List Char × List Char)
  | [] => none
  | '\\' :: char :: rest =>
    (scanString rest).map fun (text, rest) => (char :: text, rest)
  | '"' :: rest => some ([], rest)
  | char :: rest => (scanString rest).map fun (text, rest) => (char :: text, rest)

/-- The loop of `readNumberOrDuration`. -/
def scanNumber : Bool → Bool → List Char → List Char × List Char
  | _, _, [] => ([], [])
  | hasDot, hasE, char :: rest =>
    if isDigit char then
      let scanned := scanNumber hasDot hasE rest
      (char :: scanned.1, scanned.2)
    else if char = '.' ∧ hasDot = false ∧ hasE = false then
      let scanned := scanNumber true hasE rest
      (char :: scanned.1, scanned.2)
    else if (char = 'e' ∨ char = 'E') ∧ hasE = false then
      match rest with
      | [] => ([char], [])
      | sign :: others =>
        if sign = '+' ∨ sign = '-' then
          let scanned := scanNumber hasDot true others
          (char :: sign :: scanned.1, scanned.2)
        else
          let scanned := scanNumber hasDot true (sign :: others)
          (char :: scanned.1, scanned.2)
    else ([], char :: rest)

/-- The unit of a duration. -/
def scanUnit : List Char → List Char × List Char
  | 'm' :: 's' :: rest => (['m', 's'], rest)
  | char :: rest => if isUnit char then ([char], rest) else ([], char :: rest)
  | [] => ([], [])

def byteLength (chars : List Char) : Nat :=
  (chars.map Char.utf8Size).sum

/-! ### The lexer -/

/-- The lexer has a position and the characters from there on. -/
abbrev Lexed := Except String (Token × Nat × List Char)

/-- A token of these characters at a position. -/
def tokenAt (kind : TokenKind) (text : List Char) (pos : Nat) (rest : List Char) : Lexed :=
  .ok (⟨kind, String.ofList text, pos⟩, pos + byteLength text, rest)

/-- A text between quotes. -/
def readString (pos : Nat) (chars : List Char) : Lexed :=
  match scanString chars with
  | none => .error ("unterminated string at pos " ++ toString pos)
  | some (text, rest) =>
    .ok (⟨.string, String.ofList text, pos⟩,
      pos + 1 + (byteLength chars - byteLength rest), rest)

/-- A number, and a duration if a unit follows. -/
def readNumberOrDuration (pos : Nat) (chars : List Char) : Lexed :=
  let number := scanNumber false false chars
  match scanUnit number.2 with
  | ([], rest) => tokenAt .number number.1 pos rest
  | (unit, rest) => tokenAt .duration (number.1 ++ unit) pos rest

/-- A name. -/
def readIdent (pos : Nat) (chars : List Char) : Lexed :=
  let part := fun char => isIdentPart char || char = ':'
  tokenAt .ident (chars.takeWhile part) pos (chars.dropWhile part)

/-- The first byte of a character, which an error message shows as a character of its own. -/
def firstByte (char : Char) : Char :=
  ((String.utf8EncodeChar char).head?.map fun byte => Char.ofNat byte.toNat).getD char

/-- A comparison, an assignment, a string, a number, a duration or a name. -/
def longToken (pos : Nat) : List Char → Lexed
  | '=' :: '=' :: rest => tokenAt .eq ['=', '='] pos rest
  | '=' :: rest => tokenAt .assign ['='] pos rest
  | '!' :: '=' :: rest => tokenAt .neq ['!', '='] pos rest
  | '!' :: _ => .error ("expected '!=' at pos " ++ toString pos)
  | '>' :: '=' :: rest => tokenAt .gte ['>', '='] pos rest
  | '>' :: rest => tokenAt .gt ['>'] pos rest
  | '<' :: '=' :: rest => tokenAt .lte ['<', '='] pos rest
  | '<' :: rest => tokenAt .lt ['<'] pos rest
  | '"' :: rest => readString pos rest
  | char :: rest =>
    if isDigit char || (char = '.' && rest.head?.any isDigit) then
      readNumberOrDuration pos (char :: rest)
    else if isIdentStart char then readIdent pos (char :: rest)
    else .error ("unexpected character '" ++ (firstByte char).toString ++ "' at pos " ++ toString pos)
  | [] => tokenAt .eof [] pos []

/-- The next token. -/
def next (pos : Nat) (chars : List Char) : Lexed :=
  let start := pos + (chars.takeWhile isSpace).length
  match chars.dropWhile isSpace with
  | [] => tokenAt .eof [] start []
  | char :: rest =>
    match punctuation char with
    | some kind => tokenAt kind [char] start rest
    | none => longToken start (char :: rest)

/-- The loop of `tokenize`; its bound is not less than the number of characters, so that where it
is zero none is left. -/
def tokenizeFrom : Nat → Nat → List Char → Except String (List Token)
  | 0, pos, _ => .ok [⟨.eof, "", pos⟩]
  | bound + 1, pos, chars => do
    let (token, pos, rest) ← next pos chars
    if token.kind = .eof then .ok [token]
    else do
      let tokens ← tokenizeFrom bound pos rest
      .ok (token :: tokens)

/-- `tokenize`: all tokens and the end. -/
def tokenize (src : String) : Except String (List Token) :=
  tokenizeFrom src.toList.length 0 src.toList

end Slo

end MqConnector
