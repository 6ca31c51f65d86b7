/-
This file models the scripts of `internal/pipeline/script.go`: the lines of a script, its
expressions and assignments, and the caps of its stage.

What a script works on is a host: something that paths are read from, set and deleted in. One
host holds a document as a value; the code's own holds maps that are shared. A script fails
with an error, and it can also crash.
-/

import Mathlib.Data.List.TakeWhile
import MqConnector.Documents
import MqConnector.FlatExpressions

namespace MqConnector

open FlatExpressions (Operation operations)

/-! ### Hosts -/

/-- What the scripts use of other packages: `strconv.ParseFloat` and the arithmetic of `float64`. -/
structure ScriptLibrary (Number : Type) extends StructuredLibrary Number where
  parseFloat : String → Option Number
  add : Number → Number → Number
  sub : Number → Number → Number
  mul : Number → Number → Number
  div : Number → Number → Number
  isZero : Number → Bool

/-- How a script ends that does not finish. -/
inductive ScriptFailure
  | error (text : String)
  | panic
  | diverges
  deriving DecidableEq

/-- A value that is no map. -/
inductive Leaf (Number : Type)
  | null
  | bool (value : Bool)
  | number (value : Number)
  | string (text : String)
  | array (items : List (Value Number))

def Leaf.value {Number : Type} : Leaf Number → Value Number
  | .null => .null
  | .bool value => .bool value
  | .number value => .number value
  | .string text => .string text
  | .array items => .array items

/-- What a script works on. A missing text or encoding is one that never ends. -/
structure ScriptHost (Number State Item : Type) where
  getNestedValue : String → State → Option Item
  setNestedValue : String → State → Item → State × Option PathError
  deleteNestedValue : String → State → State
  literal : Leaf Number → Item
  toFloat : Item → Option Number
  sprintV : State → Item → Option String
  encodeStructured : Format → State → Option (Except String Bytes)

/-- A value as a number. -/
def ScriptLibrary.toFloat {Number : Type} (library : ScriptLibrary Number) : Value Number → Option Number
  | .number value => some value
  | .string text => library.parseFloat text
  | _ => none

/-- Scripts over immutable trees. -/
def ScriptLibrary.treeHost {Number : Type} (library : ScriptLibrary Number) :
    ScriptHost Number (DataMap Number) (Value Number) where
  getNestedValue path data := (MqConnector.getNestedValue path data).toOption
  setNestedValue := MqConnector.setNestedValue
  deleteNestedValue := MqConnector.deleteNestedValue
  literal := Leaf.value
  toFloat := library.toFloat
  sprintV _ value := some (value.sprintV library.formatNumber)
  encodeStructured format data := some (library.encodeStructured data format)

/-! ### Lines -/

/-- The lines of a script, split at line ends and semicolons. -/
def splitScriptLines (script : String) : List (List Char) :=
  ((script.toList.splitOn '\n').flatMap fun line => (line.splitOn ';').map trimSpace).filter fun part => part ≠ []

/-- A line without blanks and its last semicolon. -/
def trimLine (text : List Char) : List Char :=
  let trimmed := trimSpace text
  trimSpace (if [';'].isSuffixOf trimmed then trimmed.dropLast else trimmed)

/-- `strings.TrimPrefix(text, start)`, if the text has this start. -/
def cutPrefix (start text : List Char) : Option (List Char) :=
  if start.isPrefixOf text then some (text.drop start.length) else none

/-- `msg.` -/
def msgPrefix : List Char := ['m', 's', 'g', '.']

/-- The kinds of lines. -/
inductive ScriptLine
  | delete (path : String)
  | deleteRoot
  | assign (targetPath : String) (expr : List Char)
  | ignored
  deriving DecidableEq

/-- What a line says: the cases of `runScript`, with the texts that `evalDelete` and `evalAssign` cut
from it. -/
def parseLine (line : List Char) : ScriptLine :=
  match cutPrefix "delete ".toList line with
  | some rest =>
    let trimmed := trimSpace rest
    let path := (cutPrefix msgPrefix trimmed).getD trimmed
    if path = [] ∨ path = ['m', 's', 'g'] then .deleteRoot else .delete (String.ofList path)
  | none =>
    if '=' ∈ line then
      match cutPrefix msgPrefix (trimSpace (line.takeWhile (· != '='))) with
      | none => .ignored
      | some targetPath =>
        .assign (String.ofList targetPath) (trimSpace ((line.dropWhile (· != '=')).drop 1))
    else .ignored

/-! ### Expressions -/

/-- The sign of an operation. -/
def sign : Operation → Char
  | .add => '+'
  | .sub => '-'
  | .mul => '*'
  | .div => '/'

/-- An operation is found between blanks only. -/
def spelled (op : Operation) : List Char := [' ', sign op, ' ']

/-- `strings.Index`: what stands before and after the first occurrence. -/
def cut (found : List Char) : List Char → Option (List Char × List Char)
  | [] => if found = [] then some ([], []) else none
  | char :: text =>
    if found.isPrefixOf (char :: text) then some ([], (char :: text).drop found.length)
    else (cut found text).map fun parts => (char :: parts.1, parts.2)

theorem cut_eq_some {found text before after : List Char} (here : cut found text = some (before, after)) :
    text = before ++ found ++ after := by
  induction text generalizing before after with
  | nil =>
    rw [cut] at here
    split at here
    case isTrue empty =>
      obtain ⟨rfl, rfl⟩ := Prod.mk.inj (Option.some.inj here)
      rw [empty]
      rfl
    case isFalse => cases here
  | cons char text hypothesis =>
    rw [cut] at here
    split at here
    case isTrue first =>
      obtain ⟨rest, whole⟩ := List.isPrefixOf_iff_prefix.mp first
      obtain ⟨rfl, rfl⟩ := Prod.mk.inj (Option.some.inj here)
      rw [← whole, List.drop_left]
      rfl
    case isFalse =>
      obtain ⟨parts, further, same⟩ := Option.map_eq_some_iff.mp here
      obtain ⟨rfl, rfl⟩ := Prod.mk.inj same
      rw [hypothesis further]
      rfl

theorem length_trimSpace_le (text : List Char) : (trimSpace text).length ≤ text.length := by
  rw [trimSpace, List.length_reverse]
  refine (List.length_dropWhile_le _ _).trans ?_
  rw [List.length_reverse]
  exact List.length_dropWhile_le _ _

theorem length_of_cut (op : Operation) {text before after : List Char}
    (here : cut (spelled op) text = some (before, after)) :
    (trimSpace before).length < text.length ∧ (trimSpace after).length < text.length := by
  have whole := congrArg List.length (cut_eq_some here)
  have first := length_trimSpace_le before
  have second := length_trimSpace_le after
  have long : (spelled op).length = 3 := rfl
  rw [List.length_append, List.length_append, long] at whole
  omega

namespace ScriptHost

variable {Number State Item : Type} (library : ScriptLibrary Number) (host : ScriptHost Number State Item)

/-- The case of an operator between two values, if it is one. -/
def combine (state : State) (op : Operation) (lv rv : Item) : Option (Except ScriptFailure Item) :=
  match host.toFloat lv, host.toFloat rv with
  | some lf, some rf =>
    match op with
    | .add => some (.ok (host.literal (.number (library.add lf rf))))
    | .sub => some (.ok (host.literal (.number (library.sub lf rf))))
    | .mul => some (.ok (host.literal (.number (library.mul lf rf))))
    | .div =>
      if library.isZero rf then some (.error (.error "script: division by zero"))
      else some (.ok (host.literal (.number (library.div lf rf))))
  | _, _ =>
    if op = .add then
      match host.sprintV state lv, host.sprintV state rv with
      | some left, some right => some (.ok (host.literal (.string (left ++ right))))
      | _, _ => some (.error .diverges)
    else none

/-- The part of `evalExpr` behind its loop: an expression without operators. -/
def operand (now : Number) (state : State) (expr : List Char) : Except ScriptFailure Item :=
  if (['"'].isPrefixOf expr ∧ ['"'].isSuffixOf expr) ∨ (['\''].isPrefixOf expr ∧ ['\''].isSuffixOf expr) then
    -- expr[1 : len(expr)-1]
    if expr.length = 1 then .error .panic
    else .ok (host.literal (.string (String.ofList (expr.drop 1).dropLast)))
  else if expr = "true".toList then .ok (host.literal (.bool true))
  else if expr = "false".toList then .ok (host.literal (.bool false))
  else if expr = "null".toList ∨ expr = "nil".toList then .ok (host.literal .null)
  else if expr = "Date.now()".toList then .ok (host.literal (.number now))
  else
    match cutPrefix msgPrefix expr with
    | some path => .ok ((host.getNestedValue (String.ofList path) state).getD (host.literal .null))
    | none =>
      match library.parseFloat (String.ofList expr) with
      | some value => .ok (host.literal (.number value))
      | none => .ok (host.literal (.string (String.ofList expr)))

/-- The loop of `evalExpr` over the operators that are left, for an expression without blanks around it. -/
def evalFrom (now : Number) (state : State) (left : List Operation) (expr : List Char) :
    Except ScriptFailure Item :=
  match left with
  | [] => host.operand library now state expr
  | op :: rest =>
    match _ : cut (spelled op) expr with
    | none => evalFrom now state rest expr
    | some (lhs, rhs) =>
      if lhs = [] then evalFrom now state rest expr
      else
        match evalFrom now state operations (trimSpace lhs) with
        | .error failure => .error failure
        | .ok lv =>
          match evalFrom now state operations (trimSpace rhs) with
          | .error failure => .error failure
          | .ok rv =>
            match host.combine library state op lv rv with
            | some result => result
            | none => evalFrom now state rest expr
termination_by (expr.length, left.length)
decreasing_by
  · exact Prod.Lex.right _ (Nat.lt_succ_self _)
  · exact Prod.Lex.right _ (Nat.lt_succ_self _)
  · exact Prod.Lex.left _ _ (length_of_cut op ‹_›).1
  · exact Prod.Lex.left _ _ (length_of_cut op ‹_›).2
  · exact Prod.Lex.right _ (Nat.lt_succ_self _)

/-- An expression, its operators from the loosest to the tightest. -/
def evalExpr (now : Number) (state : State) (expr : List Char) : Except ScriptFailure Item :=
  host.evalFrom library now state operations (trimSpace expr)

section Equations

variable {library} {host} {now : Number} {state : State} {expr lhs rhs : List Char} {op : Operation}
  (left : List Operation)

theorem evalFrom_nil : host.evalFrom library now state [] expr = host.operand library now state expr := by
  rw [evalFrom]

theorem evalFrom_none (nowhere : cut (spelled op) expr = none) :
    host.evalFrom library now state (op :: left) expr = host.evalFrom library now state left expr := by
  rw [evalFrom]
  split
  case h_1 => rfl
  case h_2 here =>
    rw [nowhere] at here
    cases here

theorem evalFrom_empty (found : cut (spelled op) expr = some ([], rhs)) :
    host.evalFrom library now state (op :: left) expr = host.evalFrom library now state left expr := by
  rw [evalFrom]
  split
  case h_1 => rfl
  case h_2 before after other =>
    rw [found] at other
    obtain ⟨rfl, rfl⟩ := Prod.mk.inj (Option.some.inj other)
    exact if_pos rfl

theorem evalFrom_some (here : cut (spelled op) expr = some (lhs, rhs)) (nonempty : lhs ≠ []) :
    host.evalFrom library now state (op :: left) expr =
      match host.evalExpr library now state lhs with
      | .error failure => .error failure
      | .ok lv =>
        match host.evalExpr library now state rhs with
        | .error failure => .error failure
        | .ok rv =>
          match host.combine library state op lv rv with
          | some result => result
          | none => host.evalFrom library now state left expr := by
  rw [evalFrom]
  split
  case h_1 nowhere =>
    rw [nowhere] at here
    cases here
  case h_2 before after other =>
    rw [here] at other
    obtain ⟨rfl, rfl⟩ := Prod.mk.inj (Option.some.inj other)
    rw [if_neg nonempty]
    rfl

end Equations

/-! ### Statements -/

/-- One executed line: `evalDelete` and `evalAssign`. -/
def evalLine (now : Number) (state : State) : ScriptLine → Except ScriptFailure State
  | .delete path => .ok (host.deleteNestedValue path state)
  | .deleteRoot => .error (.error "delete: cannot remove root")
  | .assign targetPath expr =>
    match host.evalExpr library now state expr with
    | .error failure => .error failure
    | .ok value =>
      match host.setNestedValue targetPath state value with
      | (edited, none) => .ok edited
      | (_, some error) => .error (.error (error.text library.quote))
  | .ignored => .ok state

end ScriptHost

/-- What the world answers a script: the error of its context before it runs and before the line of a number,
and the time while the line is evaluated. -/
structure ScriptAnswers (Number : Type) where
  expired : Option String := none
  cancelled : Nat → Option String := fun _ => none
  now : Nat → Number

/-- Where a script stands: its document, the lines seen and the lines executed. -/
structure ScriptProgress (State : Type) where
  state : State
  seen : Nat := 0
  ops : Nat := 0

/-- The size of the document is looked at once in so many lines. -/
def intermediateCheckInterval : Nat := 64

/-- Blank lines and comments. -/
def skipsLine (line : List Char) : Bool :=
  line = [] || line = "msg".toList || line = "msg;".toList || "//".toList.isPrefixOf line

namespace ScriptHost

variable {Number State Item : Type} (library : ScriptLibrary Number) (host : ScriptHost Number State Item)
  (answers : ScriptAnswers Number) (maxOps maxIntermediateBytes : Nat)

/-- The size check of `runScript` after an executed line. -/
def checkSize (state : State) (ops : Nat) : Except ScriptFailure Unit :=
  if 0 < maxIntermediateBytes ∧ ops % intermediateCheckInterval = 0 then
    -- encodedSize
    match host.encodeStructured .json state with
    | none => .error .diverges
    | some (.error err) => .error (.error ("script: intermediate encode: " ++ err))
    | some (.ok encoded) =>
      if maxIntermediateBytes < encoded.length then
        .error (.error ("script: resource limit exceeded: intermediate data " ++ toString encoded.length ++
          " bytes exceeds cap " ++ toString maxIntermediateBytes))
      else .ok ()
  else .ok ()

/-- One round of the loop of `runScript`. -/
def runLine (progress : ScriptProgress State) (raw : List Char) :
    Except ScriptFailure (ScriptProgress State) :=
  match answers.cancelled progress.seen with
  | some err => .error (.error err)
  | none =>
    let line := trimLine raw
    if skipsLine line then .ok { progress with seen := progress.seen + 1 }
    else if maxOps < progress.ops + 1 then
      .error (.error ("script: resource limit exceeded: op count " ++ toString (progress.ops + 1) ++
        " exceeds cap " ++ toString maxOps))
    else
      match host.evalLine library (answers.now progress.seen) progress.state (parseLine line) with
      | .error failure => .error failure
      | .ok state =>
        match host.checkSize maxIntermediateBytes state (progress.ops + 1) with
        | .error failure => .error failure
        | .ok () => .ok { state := state, seen := progress.seen + 1, ops := progress.ops + 1 }

/-- The loop of `runScript`. -/
def runLines : List (List Char) → ScriptProgress State → Except ScriptFailure (ScriptProgress State)
  | [], progress => .ok progress
  | raw :: lines, progress =>
    match host.runLine library answers maxOps maxIntermediateBytes progress raw with
    | .error failure => .error failure
    | .ok progress => runLines lines progress

/-- `runScript`: the document after it. -/
def runScript (script : String) (state : State) : Except ScriptFailure State :=
  match host.runLines library answers maxOps maxIntermediateBytes (splitScriptLines script) { state := state } with
  | .error failure => .error failure
  | .ok progress => .ok progress.state

/-- `runScript` followed by `encodeStructured`. -/
def runAndEncode (script : String) (state : State) (format : Format) : Except ScriptFailure Bytes :=
  match host.runScript library answers maxOps maxIntermediateBytes script state with
  | .error failure => .error failure
  | .ok state =>
    match host.encodeStructured format state with
    | none => .error .diverges
    | some (.error err) => .error (.error ("encode: " ++ err))
    | some (.ok out) => .ok out

end ScriptHost

/-! ### The stage -/

/-- `ScriptStage`, without its timeout: what ends its context is among the answers of the world. -/
structure ScriptStage where
  script : String
  maxOps : Int := 0
  maxScriptBytes : Int := 0
  maxIntermediateBytes : Int := 0
  maxOutputBytes : Int := 0

namespace ScriptStage

variable (stage : ScriptStage)

/-- The caps of a stage, or their defaults. -/
def opCap : Nat := if 0 < stage.maxOps then stage.maxOps.toNat else 1000

def scriptByteCap : Nat := if 0 < stage.maxScriptBytes then stage.maxScriptBytes.toNat else 32 * 1024

def outputByteCap : Nat := if 0 < stage.maxOutputBytes then stage.maxOutputBytes.toNat else 4 * 1024 * 1024

def intermediateByteCap : Nat :=
  if 0 < stage.maxIntermediateBytes then stage.maxIntermediateBytes.toNat else 8 * 1024 * 1024

/-- The failure with what `fmt.Errorf` puts before it. -/
def failed : ScriptFailure → ScriptFailure
  | .error err => .error ("script: " ++ err)
  | failure => failure

/-- `ScriptStage.Execute` over a host that documents are loaded to. -/
def execute {Number State Item : Type} (library : ScriptLibrary Number) (host : ScriptHost Number State Item)
    (load : DataMap Number → State) (answers : ScriptAnswers Number) (message : Bytes) (format : Format) :
    Except ScriptFailure StageOutput :=
  let unchanged : StageOutput := { body := message, format := some format, result := none }
  if trimSpace stage.script.toList = [] then .ok unchanged
  else if stage.scriptByteCap < stage.script.utf8ByteSize then
    .error (.error ("script: resource limit exceeded: script source " ++ toString stage.script.utf8ByteSize ++
      " bytes exceeds cap " ++ toString stage.scriptByteCap))
  else
    match library.decodeStructured message format with
    | .error err => .error (.error ("script: " ++ err))
    | .ok none => .ok unchanged
    | .ok (some data) =>
      match answers.expired with
      | some err => .error (.error ("script: " ++ err))
      | none =>
        match host.runAndEncode library answers stage.opCap stage.intermediateByteCap stage.script (load data)
          format with
        | .error failure => .error (failed failure)
        | .ok out =>
          if stage.outputByteCap < out.length then
            .error (.error ("script: resource limit exceeded: output " ++ toString out.length ++
              " bytes exceeds cap " ++ toString stage.outputByteCap))
          else .ok { unchanged with body := out }

end ScriptStage

end MqConnector
