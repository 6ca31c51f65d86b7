/-
This file asks what becomes of a quoted text in a script.

The line of a quoted text is cut at semicolons before it is looked at, and the text itself is
looked through for operators like any expression.
-/

import Mathlib.Data.List.DropRight
import MqConnector.ScriptArithmetic

namespace MqConnector

open FlatExpressions NestedMaps ScriptHost

/-! ### Cuts and blanks -/

section Texts

variable {found text before after : List Char}

theorem cut_eq_none : cut found text = none ↔ ¬ found <:+: text := by
  induction text with
  | nil =>
    rw [cut, List.infix_nil]
    split
    case isTrue empty => exact iff_of_false (Option.some_ne_none _) (not_not_intro empty)
    case isFalse nonempty => exact iff_of_true rfl nonempty
  | cons char text hypothesis =>
    rw [cut, List.infix_cons_iff, not_or, ← hypothesis, ← List.isPrefixOf_iff_prefix]
    split
    case isTrue first => exact iff_of_false (Option.some_ne_none _) (fun neither => neither.1 first)
    case isFalse elsewhere =>
      rw [Option.map_eq_none_iff]
      exact (and_iff_right elsewhere).symm

theorem trimSpace_visible {start : Char} (visible : isSpace start = false) (rest : List Char) :
    trimSpace (start :: rest) = ((start :: rest).reverse.dropWhile isSpace).reverse := by
  rw [trimSpace, List.dropWhile_cons_of_neg (by simp [visible])]

theorem trimSpace_append {first start : Char} (opens : isSpace first = false)
    (visible : isSpace start = false)
    (text rest : List Char) :
    trimSpace (first :: text ++ start :: rest) = first :: text ++ trimSpace (start :: rest) := by
  have remains : ((start :: rest).reverse.dropWhile isSpace).isEmpty = false := by
    rw [List.isEmpty_eq_false_iff, ne_eq, List.dropWhile_eq_nil_iff]
    exact fun blank => absurd (blank start (List.mem_reverse.mpr List.mem_cons_self)) (by simp [visible])
  have whole := trimSpace_visible opens (text ++ start :: rest)
  rw [← List.cons_append, List.reverse_append, List.dropWhile_append, remains, if_neg Bool.false_ne_true,
    List.reverse_append, List.reverse_reverse] at whole
  rw [whole, trimSpace_visible visible]

theorem trimSpace_cons {start : Char} (visible : isSpace start = false) (rest : List Char) :
    ∃ blanks, (∀ char ∈ blanks, isSpace char = true) ∧ start :: rest = trimSpace (start :: rest) ++ blanks ∧
      ∃ more, trimSpace (start :: rest) = start :: more := by
  have kept : (start :: rest).dropWhile isSpace = start :: rest :=
    List.dropWhile_cons_of_neg (by simp [visible])
  refine ⟨((start :: rest).reverse.takeWhile isSpace).reverse, fun char member => ?_, ?_, ?_⟩
  · exact List.mem_takeWhile_imp (List.mem_reverse.mp member)
  · rw [trimSpace, kept, ← List.reverse_append, List.takeWhile_append_dropWhile, List.reverse_reverse]
  · have remains : (rest.reverse ++ [start]).dropWhile isSpace = _ := List.dropWhile_append
    rw [trimSpace, kept, List.reverse_cons, remains]
    split
    · rw [List.dropWhile_cons_of_neg (by simp [visible])]
      exact ⟨[], rfl⟩
    · rw [List.reverse_append]
      exact ⟨_, rfl⟩

theorem trimSpace_trimSpace {start : Char} (visible : isSpace start = false) (rest : List Char) :
    trimSpace (trimSpace (start :: rest)) = trimSpace (start :: rest) := by
  obtain ⟨-, -, -, more, opens⟩ := trimSpace_cons visible rest
  have again := trimSpace_visible visible more
  rw [← opens] at again
  have once : (trimSpace (start :: rest)).reverse = (start :: rest).reverse.dropWhile isSpace := by
    rw [trimSpace_visible visible, List.reverse_reverse]
  rw [again, once, List.dropWhile_idempotent, ← once, List.reverse_reverse]

theorem trimSpace_blanks {start : Char} (visible : isSpace start = false) {blanks : List Char}
    (spaces : ∀ char ∈ blanks, isSpace char = true) : trimSpace (start :: blanks) = [start] := by
  have kept : (start :: blanks).dropWhile isSpace = start :: blanks :=
    List.dropWhile_cons_of_neg (by simp [visible])
  have gone : blanks.reverse.dropWhile isSpace = [] :=
    List.dropWhile_eq_nil_iff.mpr fun char member => spaces char (List.mem_reverse.mp member)
  have last : (blanks.reverse ++ [start]).dropWhile isSpace = [start].dropWhile isSpace := by
    rw [List.dropWhile_append, gone]
    rfl
  rw [trimSpace, kept, List.reverse_cons, last, List.dropWhile_cons_of_neg (by simp [visible])]
  rfl

end Texts

/-! ### What is looked at -/

def quoted (text : List Char) : List Char := '"' :: (text ++ ['"'])

/-- What stands behind an operator of a text: behind its first occurrence, or within what stands before. -/
inductive Behind : List Char → List Char → Prop
  | here {op : Operation} {text before after : List Char}
      (found : cut (spelled op) text = some (before, after)) : Behind text after
  | ahead {op : Operation} {text before after rest : List Char}
      (found : cut (spelled op) text = some (before, after)) (inner : Behind (trimSpace before) rest) :
      Behind text rest

/-- A text that opens with a quote and has no other one within. -/
structure Opened (text inner : List Char) : Prop where
  opens : text = '"' :: inner
  within : '"' ∉ inner.dropLast

section Opened

variable {text inner before after : List Char} {op : Operation}

theorem Opened.ne_nil_of_cut (opened : Opened text inner)
    (found : cut (spelled op) text = some (before, after)) :
    before ≠ [] := by
  rintro rfl
  have whole := opened.opens.symm.trans (cut_eq_some found)
  cases (List.cons.inj whole).1

theorem Opened.ahead (opened : Opened text inner) (found : cut (spelled op) text = some (before, after)) :
    ∃ more blanks, trimSpace before = '"' :: more ∧ before = '"' :: more ++ blanks ∧
      (∀ char ∈ blanks, isSpace char = true) ∧ '"' ∉ more := by
  obtain ⟨rfl, within⟩ := opened
  have whole := cut_eq_some found
  cases before with
  | nil => cases (List.cons.inj whole).1
  | cons first rest =>
    obtain ⟨rfl, body⟩ := List.cons.inj whole
    have visible : isSpace '"' = false := by decide
    obtain ⟨blanks, spaces, shape, more, opens⟩ := trimSpace_cons visible rest
    refine ⟨more, blanks, opens, opens ▸ shape, spaces, fun member => within ?_⟩
    have kept : rest = more ++ blanks := by
      rw [opens] at shape
      exact (List.cons.inj shape).2
    have sides : inner = rest ++ (spelled op ++ after) := body.trans (List.append_assoc ..)
    have further : spelled op ++ after ≠ [] := List.cons_ne_nil _ _
    rw [sides, List.dropLast_append_of_ne_nil further, kept]
    exact List.mem_append_left _ (List.mem_append_left _ member)

theorem opened_of_not_mem (apart : '"' ∉ inner) : Opened ('"' :: inner) inner :=
  ⟨rfl, fun member => apart (List.mem_of_mem_dropLast member)⟩

theorem opened_quoted (apart : '"' ∉ text) : Opened (quoted text) (text ++ ['"']) := by
  refine ⟨rfl, ?_⟩
  rw [List.dropLast_concat]
  exact apart

end Opened

section Operands

variable (library : StructuredLibrary ℚ) (now : ℚ) (data : DataMap ℚ) {text : List Char}

theorem parseRational_of_quote (member : '"' ∈ text) : parseRational (String.ofList text) = none := by
  cases read : parseRational (String.ofList text) with
  | none => rfl
  | some value =>
    have foreign : Foreign '"' := ⟨by decide, by decide, by decide, by decide⟩
    have signed := parseSigned_of_parseRational read
    rw [parseSigned_eq_none foreign member] at signed
    cases signed

theorem operand_quoted :
    (exactLibrary library).treeHost.operand (exactLibrary library) now data (quoted text) =
    .ok (.string (String.ofList text)) := by
  have ends : ['"'].isSuffixOf (quoted text) = true :=
    List.isSuffixOf_iff_suffix.mpr (List.suffix_append ('"' :: text) ['"'])
  have long : (quoted text).length ≠ 1 := by
    rw [quoted, List.length_cons, List.length_append, List.length_cons]
    omega
  have inside : ((quoted text).drop 1).dropLast = text := List.dropLast_concat
  rw [ScriptHost.operand, if_pos (Or.inl ⟨rfl, ends⟩), if_neg long, inside]
  rfl

theorem operand_open (nonempty : text ≠ []) (apart : '"' ∉ text) :
    (exactLibrary library).treeHost.operand (exactLibrary library) now data ('"' :: text) =
      .ok (.string (String.ofList ('"' :: text))) := by
  have differs {char : Char} (differ : '"' ≠ char) (rest : List Char) : '"' :: text ≠ char :: rest :=
    fun same => differ (List.cons.inj same).1
  have noNumber : (exactLibrary library).parseFloat (String.ofList ('"' :: text)) = none :=
    parseRational_of_quote List.mem_cons_self
  have isTrue : '"' :: text ≠ "true".toList := differs (by decide) _
  have isFalse : '"' :: text ≠ "false".toList := differs (by decide) _
  have isNull : ¬ ('"' :: text = "null".toList ∨ '"' :: text = "nil".toList) :=
    not_or.mpr ⟨differs (by decide) _, differs (by decide) _⟩
  have isNow : '"' :: text ≠ "Date.now()".toList := differs (by decide) _
  have noPath : cutPrefix msgPrefix ('"' :: text) = none := if_neg Bool.false_ne_true
  rw [ScriptHost.operand, if_neg, if_neg isTrue, if_neg isFalse, if_neg isNull, if_neg isNow, noPath]
  · dsimp only
    rw [noNumber]
    rfl
  · rintro (⟨-, closes⟩ | ⟨single, -⟩)
    · obtain ⟨front, whole⟩ := List.isSuffixOf_iff_suffix.mp closes
      cases front with
      | nil => exact nonempty (List.cons.inj whole).2.symm
      | cons first front =>
        refine apart ?_
        rw [← (List.cons.inj whole).2]
        exact List.mem_append_right _ List.mem_cons_self
    · cases single

end Operands

/-! ### What is evaluated -/

section Evaluation

variable (library : StructuredLibrary ℚ) (now : ℚ) (data : DataMap ℚ)

theorem combine_text {text : List Char} (member : '"' ∈ text) (op : Operation) (right : Value ℚ) :
    (exactLibrary library).treeHost.combine (exactLibrary library) data op (.string (String.ofList text)) right =
      if op = .add then
        some (.ok (.string (String.ofList (text ++ (right.sprintV library.formatNumber).toList))))
      else none := by
  have noNumber : (exactLibrary library).treeHost.toFloat (.string (String.ofList text)) = none :=
    parseRational_of_quote member
  have sum : String.ofList (text ++ (right.sprintV library.formatNumber).toList) =
      String.ofList text ++ right.sprintV library.formatNumber := by
    rw [String.ofList_append, String.ofList_toList]
  rw [ScriptHost.combine, noNumber, sum]
  rfl

theorem opens_of_evalFrom (left : List Operation) (inner : List Char) (apart : '"' ∉ inner) {value : Value ℚ}
    (done : (exactLibrary library).treeHost.evalFrom (exactLibrary library) now data left ('"' :: inner) =
      .ok value) : ∃ rest, value = .string (String.ofList ('"' :: rest)) := by
  match left with
  | [] =>
    rw [evalFrom_nil] at done
    cases inner with
    | nil => cases done
    | cons first rest =>
      rw [operand_open library now data (List.cons_ne_nil _ _) apart] at done
      exact ⟨_, (Except.ok.inj done).symm⟩
  | op :: others =>
    cases found : cut (spelled op) ('"' :: inner) with
    | none =>
      rw [evalFrom_none others found] at done
      exact opens_of_evalFrom others inner apart done
    | some parts =>
      obtain ⟨before, after⟩ := parts
      have opened := opened_of_not_mem apart
      obtain ⟨more, blanks, trimmed, whole, -, inside⟩ := opened.ahead found
      have parts := cut_eq_some found
      rw [evalFrom_some others found (opened.ne_nil_of_cut found), ScriptHost.evalExpr, trimmed] at done
      split at done
      case h_1 => cases done
      case h_2 lv first =>
      obtain ⟨rest, rfl⟩ := opens_of_evalFrom operations more inside first
      split at done
      case h_1 => cases done
      case h_2 rv second =>
      rw [combine_text library data List.mem_cons_self] at done
      split at done
      case h_1 result combined =>
        split at combined
        · cases combined
          exact ⟨_, (Except.ok.inj done).symm⟩
        · cases combined
      case h_2 => exact opens_of_evalFrom others inner apart done
termination_by (inner.length, left.length)
decreasing_by
  · exact Prod.Lex.right _ (Nat.lt_succ_self _)
  · have long := congrArg List.length parts
    rw [whole] at long
    have three : (spelled op).length = 3 := rfl
    simp only [List.length_cons, List.length_append, three] at long
    exact Prod.Lex.left _ _ (by omega)
  · exact Prod.Lex.right _ (Nat.lt_succ_self _)

section Steps

variable {text inner before after : List Char} {op : Operation} {others : List Operation}

theorem evalFrom_opened_cons (opened : Opened text inner)
    (found : cut (spelled op) text = some (before, after)) (noSum : op ≠ .add) :
    (exactLibrary library).treeHost.evalFrom (exactLibrary library) now data (op :: others) text =
      match (exactLibrary library).treeHost.evalExpr (exactLibrary library) now data before with
      | .error failure => .error failure
      | .ok _ =>
        match (exactLibrary library).treeHost.evalExpr (exactLibrary library) now data after with
        | .error failure => .error failure
        | .ok _ => (exactLibrary library).treeHost.evalFrom (exactLibrary library) now data others text := by
  obtain ⟨more, blanks, trimmed, -, -, inside⟩ := opened.ahead found
  rw [evalFrom_some others found (opened.ne_nil_of_cut found)]
  cases first : (exactLibrary library).treeHost.evalExpr (exactLibrary library) now data before with
  | error failure => rfl
  | ok lv =>
    cases second : (exactLibrary library).treeHost.evalExpr (exactLibrary library) now data after with
    | error failure => rfl
    | ok rv =>
      rw [ScriptHost.evalExpr, trimmed] at first
      obtain ⟨rest, rfl⟩ := opens_of_evalFrom library now data operations more inside first
      dsimp only
      rw [combine_text library data List.mem_cons_self, if_neg noSum]

/-- An expression that is evaluated without a failure. -/
def Evaluates (expr : List Char) : Prop :=
  ∃ value, (exactLibrary library).treeHost.evalExpr (exactLibrary library) now data expr = .ok value

theorem evaluates_of_error {expr : List Char} {failure : ScriptFailure}
    (failed : (exactLibrary library).treeHost.evalExpr (exactLibrary library) now data expr = .error failure) :
    ¬ Evaluates library now data expr := by
  rintro ⟨value, done⟩
  rw [failed] at done
  cases done

/-- The sides of the first occurrence of each of these operators are evaluated without a failure. -/
def SidesEvaluate (left : List Operation) (text : List Char) : Prop :=
  ∀ op ∈ left, ∀ before after, cut (spelled op) text = some (before, after) →
    Evaluates library now data before ∧ Evaluates library now data after

theorem evalFrom_opened (opened : Opened text inner) (noSum : cut (spelled .add) text = none)
    (left : List Operation) :
    (SidesEvaluate library now data left text ∧
      (exactLibrary library).treeHost.evalFrom (exactLibrary library) now data left text =
        (exactLibrary library).treeHost.operand (exactLibrary library) now data text) ∨
    (¬ SidesEvaluate library now data left text ∧ ∃ failure,
      (exactLibrary library).treeHost.evalFrom (exactLibrary library) now data left text = .error failure) := by
  induction left with
  | nil => exact Or.inl ⟨fun op member => absurd member List.not_mem_nil, evalFrom_nil ..⟩
  | cons op others hypothesis =>
    have sides : SidesEvaluate library now data (op :: others) text ↔
        (∀ before after, cut (spelled op) text = some (before, after) →
          Evaluates library now data before ∧ Evaluates library now data after) ∧
        SidesEvaluate library now data others text := List.forall_mem_cons
    rw [sides]
    cases found : cut (spelled op) text with
    | none =>
      have nothing (before after : List Char) (here : none = some (before, after)) :
          Evaluates library now data before ∧ Evaluates library now data after := nomatch here
      rw [evalFrom_none others found, and_iff_right nothing]
      exact hypothesis
    | some parts =>
      obtain ⟨before, after⟩ := parts
      have differ : op ≠ .add := by
        rintro rfl
        rw [noSum] at found
        cases found
      rw [evalFrom_opened_cons library now data opened found differ]
      cases first : (exactLibrary library).treeHost.evalExpr (exactLibrary library) now data before with
      | error failure =>
        exact Or.inr ⟨fun both => evaluates_of_error library now data first (both.1 _ _ rfl).1, failure, rfl⟩
      | ok lv =>
        cases second : (exactLibrary library).treeHost.evalExpr (exactLibrary library) now data after with
        | error failure =>
          exact Or.inr ⟨fun both => evaluates_of_error library now data second (both.1 _ _ rfl).2, failure, rfl⟩
        | ok rv =>
          have both (lhs rhs : List Char) (here : some (before, after) = some (lhs, rhs)) :
              Evaluates library now data lhs ∧ Evaluates library now data rhs := by
            cases here
            exact ⟨⟨lv, first⟩, rv, second⟩
          rw [and_iff_right both]
          exact hypothesis

end Steps

/-- Nothing is computed with a text that opens with a quote: it sums up nothing, no operator stands at its
start, and what stands behind its operators is evaluated without a failure. -/
structure Idle (inner : List Char) : Prop where
  noSum : cut (spelled .add) ('"' :: inner) = none
  later : ∀ op blanks rest, (∀ char ∈ blanks, isSpace char = true) → inner ≠ blanks ++ spelled op ++ rest
  quiet : ∀ rest, Behind ('"' :: inner) rest → Evaluates library now data rest

variable {library now data}

theorem cut_ahead {found text front after : List Char} {op : Operation} (nowhere : cut found text = none)
    (here : cut (spelled op) text = some (front, after)) {word : List Char} (ahead : word <+: front) :
    cut found word = none := by
  refine cut_eq_none.mpr fun member => cut_eq_none.mp nowhere (member.trans (ahead.isInfix.trans ?_))
  rw [cut_eq_some here, List.append_assoc]
  exact (List.prefix_append _ _).isInfix

theorem Idle.ahead {inner more blanks after : List Char} {op : Operation} (idle : Idle library now data inner)
    (found : cut (spelled op) ('"' :: inner) = some ('"' :: more ++ blanks, after))
    (trimmed : trimSpace ('"' :: more ++ blanks) = '"' :: more) : Idle library now data more := by
  have whole : inner = more ++ (blanks ++ spelled op ++ after) := by
    have parts := (List.cons.inj (cut_eq_some found)).2
    rw [parts]
    simp only [List.append_eq, List.append_assoc]
  refine ⟨?_, fun other spaces rest blank same => ?_, fun rest behind => ?_⟩
  · exact cut_ahead idle.noSum found (List.prefix_append ('"' :: more) blanks)
  · refine idle.later other spaces (rest ++ (blanks ++ spelled op ++ after)) blank ?_
    rw [whole, same, List.append_assoc]
  · refine idle.quiet rest (.ahead found ?_)
    rw [trimmed]
    exact behind

theorem Idle.evalFrom {text inner : List Char} (opened : Opened text inner)
    (idle : Idle library now data inner)
    (left : List Operation) :
    (exactLibrary library).treeHost.evalFrom (exactLibrary library) now data left text =
      (exactLibrary library).treeHost.operand (exactLibrary library) now data text := by
  have opens := opened.opens
  have noSum : cut (spelled .add) text = none := opens ▸ idle.noSum
  refine ((evalFrom_opened library now data opened noSum left).resolve_right fun failed => failed.1 ?_).2
  intro op member before after found
  rw [opens] at found
  refine ⟨?_, idle.quiet after (.here found)⟩
  obtain ⟨more, blanks, trimmed, whole, spaces, inside⟩ := (opens ▸ opened).ahead found
  have parts : inner = more ++ blanks ++ spelled op ++ after := by
    have parts := cut_eq_some found
    rw [whole] at parts
    exact (List.cons.inj parts).2
  have nonempty : more ≠ [] := by
    rintro rfl
    exact idle.later op blanks after spaces parts
  have further : Idle library now data more := idle.ahead (whole ▸ found) (whole ▸ trimmed)
  have inner := further.evalFrom (opened_of_not_mem inside) operations
  rw [operand_open library now data nonempty inside] at inner
  exact ⟨_, (congrArg _ trimmed).trans inner⟩
termination_by inner.length
decreasing_by
  have long := congrArg List.length parts
  have three : (spelled op).length = 3 := rfl
  simp only [List.length_append, three] at long
  omega

theorem cut_blanks {blanks : List Char} (spaces : ∀ char ∈ blanks, isSpace char = true) (op : Operation)
    (rest : List Char) : cut (spelled op) (blanks ++ spelled op ++ rest) = some (blanks, rest) := by
  induction blanks with
  | nil => exact cut_here
  | cons char blanks hypothesis =>
    obtain ⟨-, others⟩ := List.forall_mem_cons.mp spaces
    rw [List.cons_append, List.cons_append, cut_of_not_isPrefixOf, hypothesis others]
    · rfl
    · -- behind a blank there is another one, and no sign
      have signs : isSpace (sign op) = false := by cases op <;> decide
      intro more same
      cases blanks with
      | nil => exact sign_ne_blank op (List.cons.inj (List.cons.inj same).2).1
      | cons next blanks =>
        have blank := others next List.mem_cons_self
        rw [(List.cons.inj (List.cons.inj same).2).1, signs] at blank
        cases blank

theorem evalFrom_lone (left : List Operation) :
    (exactLibrary library).treeHost.evalFrom (exactLibrary library) now data left ['"'] = .error .panic := by
  have nowhere (op : Operation) : cut (spelled op) ['"'] = none := by cases op <;> decide
  induction left with
  | nil => exact evalFrom_nil ..
  | cons op others hypothesis => rw [evalFrom_none others (nowhere op), hypothesis]

theorem idle_of_evalFrom {inner : List Char} (within : '"' ∉ inner.dropLast)
    (noSum : cut (spelled .add) ('"' :: inner) = none)
    (done : ∃ value, (exactLibrary library).treeHost.evalFrom (exactLibrary library) now data operations
      ('"' :: inner) = .ok value) : Idle library now data inner := by
  have opened : Opened ('"' :: inner) inner := ⟨rfl, within⟩
  have sides : SidesEvaluate library now data operations ('"' :: inner) := by
    rcases evalFrom_opened library now data opened noSum operations with ⟨sides, -⟩ | ⟨-, failure, failed⟩
    · exact sides
    · obtain ⟨value, done⟩ := done
      rw [failed] at done
      cases done
  refine ⟨noSum, fun op blanks rest spaces same => ?_, fun rest behind => ?_⟩
  · have quote : isSpace '"' = false := by decide
    have found : cut (spelled op) ('"' :: inner) = some ('"' :: blanks, rest) := by
      have word := @cut_word op ['"'] inner (by simpa using quote)
      rw [same] at word ⊢
      exact word.trans (congrArg _ (cut_blanks spaces op rest))
    obtain ⟨value, alone⟩ := (sides op (mem_operations op) _ _ found).1
    rw [ScriptHost.evalExpr, trimSpace_blanks quote spaces, evalFrom_lone] at alone
    cases alone
  · cases behind with
    | @here op _ before _ found => exact (sides op (mem_operations op) before rest found).2
    | @ahead op _ before after _ found behind =>
      obtain ⟨more, blanks, trimmed, whole, -, inside⟩ := opened.ahead found
      have evaluated := (sides op (mem_operations op) before after found).1
      have parts := congrArg List.length (cut_eq_some found)
      rw [Evaluates, ScriptHost.evalExpr, trimmed] at evaluated
      rw [trimmed] at behind
      have ahead : '"' :: more <+: before := whole ▸ List.prefix_append ('"' :: more) blanks
      have apart : '"' ∉ more.dropLast := fun member => inside (List.mem_of_mem_dropLast member)
      exact (idle_of_evalFrom apart (cut_ahead noSum found ahead) evaluated).quiet rest behind
termination_by inner.length
decreasing_by
  have three : (spelled op).length = 3 := rfl
  have shorter := congrArg List.length whole
  simp only [List.length_append, List.length_cons, three] at parts shorter
  omega

end Evaluation

/-! ### What is stored -/

section Stored

variable (library : StructuredLibrary ℚ)

/-- What a script makes of a document that stores a text at a path. -/
def storedText (path text : List Char) (data : DataMap ℚ) : Except ScriptFailure (DataMap ℚ) :=
  match setNestedValue (String.ofList path) data (.string (String.ofList text)) with
  | (edited, none) => .ok edited
  | (_, some error) => .error (.error (error.text library.quote))

def assignment (path expr : List Char) : List Char := msgPrefix ++ path ++ [' ', '=', ' '] ++ expr

/-- A path that can be assigned to as it is written. -/
structure TargetPath (path : List Char) : Prop where
  apart : ∀ char ∈ path, char ∉ ['\n', ';', '=']
  last : ∀ char ∈ path.getLast?, isSpace char = false

/-- The script that assigns a quoted text stores the text, whatever the document, the path and the caps are. -/
def StoredExactly (text : List Char) : Prop :=
  ∀ (answers : ScriptAnswers ℚ) (maxOps maxIntermediateBytes : Nat) (path : List Char) (data : DataMap ℚ),
    (∀ line, answers.cancelled line = none) → 0 < maxOps → TargetPath path →
      (exactLibrary library).treeHost.runScript (exactLibrary library) answers maxOps maxIntermediateBytes
        (String.ofList (assignment path (quoted text))) data = storedText library path text data

/-- A text of which a script keeps every character: it has no semicolon and no sum, no operator at its start, and
what stands behind its operators is evaluated without a failure. -/
structure Inert (text : List Char) : Prop where
  oneLine : ';' ∉ text
  noSum : ¬ spelled .add <:+: text
  later : ∀ op blanks rest, (∀ char ∈ blanks, isSpace char = true) → text ≠ blanks ++ spelled op ++ rest
  quiet : ∀ now data rest, Behind (quoted text) rest → Evaluates library now data rest

theorem quote_ne_spelled (front text : List Char) (op : Operation) : front ++ spelled op ≠ text ++ ['"'] := by
  intro same
  have ends : (front ++ spelled op).getLast? = some ' ' :=
    List.getLast?_append_of_ne_nil _ (List.cons_ne_nil _ _)
  rw [same, List.getLast?_concat] at ends
  cases ends

theorem spelled_infix_quoted (op : Operation) (text : List Char) :
    spelled op <:+: quoted text ↔ spelled op <:+: text := by
  rw [quoted, List.infix_cons_iff, List.infix_concat_iff, or_iff_right, or_iff_right]
  · rintro ⟨front, whole⟩
    exact quote_ne_spelled front text op whole
  · rintro ⟨rest, whole⟩
    cases (List.cons.inj whole).1

theorem idle_quoted (text : List Char) :
    (∀ now data, Idle library now data (text ++ ['"'])) ↔
      ¬ spelled .add <:+: text ∧
      (∀ op blanks rest, (∀ char ∈ blanks, isSpace char = true) → text ≠ blanks ++ spelled op ++ rest) ∧
      ∀ now data rest, Behind (quoted text) rest → Evaluates library now data rest := by
  constructor
  · intro idle
    have noSum := cut_eq_none.mp (idle 0 []).noSum
    refine ⟨fun sum => noSum ((spelled_infix_quoted .add text).mpr sum), fun op blanks rest spaces same => ?_,
      fun now data => (idle now data).quiet⟩
    refine (idle 0 []).later op blanks (rest ++ ['"']) spaces ?_
    rw [same, List.append_assoc]
  · rintro ⟨noSum, later, quiet⟩ now data
    refine ⟨cut_eq_none.mpr fun sum => noSum ((spelled_infix_quoted .add text).mp sum),
      fun op blanks rest spaces same => ?_, quiet now data⟩
    rcases List.eq_nil_or_concat rest with rfl | ⟨front, last, rfl⟩
    · rw [List.append_nil] at same
      exact quote_ne_spelled blanks text op same.symm
    · rw [List.concat_eq_append, ← List.append_assoc] at same
      exact later op blanks front spaces (List.append_inj_left' same rfl)

section Lines

variable {path expr rest : List Char} {start : Char}

theorem trimSpace_assignment (visible : isSpace start = false) :
    trimSpace (assignment path (start :: rest)) = assignment path (trimSpace (start :: rest)) := by
  have opens : isSpace 'm' = false := by decide
  exact trimSpace_append opens visible _ rest

theorem trimLine_assignment (visible : isSpace start = false)
    (trimmed : trimSpace (start :: rest) = start :: rest)
    (apart : ';' ∉ start :: rest) : trimLine (assignment path (start :: rest)) = assignment path (start :: rest) := by
  have whole : trimSpace (assignment path (start :: rest)) = assignment path (start :: rest) := by
    rw [trimSpace_assignment visible, trimmed]
  have noSuffix : ¬ [';'].isSuffixOf (assignment path (start :: rest)) = true := by
    intro closes
    obtain ⟨front, same⟩ := List.isSuffixOf_iff_suffix.mp closes
    have ends : (assignment path (start :: rest)).getLast? = (start :: rest).getLast? :=
      List.getLast?_append_of_ne_nil _ (List.cons_ne_nil _ _)
    rw [← same, List.getLast?_concat] at ends
    exact apart (List.mem_of_getLast? ends.symm)
  rw [trimLine, whole, if_neg noSuffix, whole]

theorem parseLine_assignment (target : TargetPath path) :
    parseLine (assignment path expr) = .assign (String.ofList path) (trimSpace expr) := by
  have noDelete : cutPrefix "delete ".toList (assignment path expr) = none := if_neg Bool.false_ne_true
  have apart : ∀ char ∈ msgPrefix ++ path ++ [' '], (char != '=') = true := by
    have letters : ∀ char ∈ msgPrefix, (char != '=') = true := List.forall_iff_forall_mem.mp (by decide)
    refine List.forall_mem_append.mpr ⟨List.forall_mem_append.mpr ⟨letters, fun char member => ?_⟩,
      List.forall_mem_singleton.mpr rfl⟩
    refine bne_iff_ne.mpr ?_
    rintro rfl
    exact target.apart '=' member (by decide)
  have cut : assignment path expr = (msgPrefix ++ path ++ [' ']) ++ '=' :: ' ' :: expr := by
    simp only [assignment, List.append_assoc]
    rfl
  have equals : '=' ∈ assignment path expr := by
    rw [cut]
    exact List.mem_append_right _ List.mem_cons_self
  have lhs : (assignment path expr).takeWhile (· != '=') = msgPrefix ++ path ++ [' '] := by
    rw [cut, List.takeWhile_append_of_pos apart]
    exact List.append_nil _
  have rhs : ((assignment path expr).dropWhile (· != '=')).drop 1 = ' ' :: expr := by
    rw [cut, List.dropWhile_append_of_pos apart]
    rfl
  have trimmed : trimSpace (msgPrefix ++ path ++ [' ']) = msgPrefix ++ path := by
    have opens : isSpace 'm' = false := by decide
    have blank : trimSpace (msgPrefix ++ path ++ [' ']) = trimSpace (msgPrefix ++ path) := by
      have longer : trimSpace (msgPrefix ++ path ++ [' ']) =
          ((msgPrefix ++ path ++ [' ']).reverse.dropWhile isSpace).reverse := trimSpace_visible opens _
      rw [longer, List.reverse_concat]
      exact (trimSpace_visible opens _).symm
    rw [blank]
    refine trimSpace_eq_self (fun char first => Option.some.inj first ▸ opens) fun char ends => ?_
    cases path with
    | nil => exact Option.some.inj ends ▸ (by decide : isSpace '.' = false)
    | cons first path =>
      rw [List.getLast?_append_of_ne_nil _ (List.cons_ne_nil _ _)] at ends
      exact target.last char ends
  have blank : trimSpace (' ' :: expr) = trimSpace expr := rfl
  rw [parseLine, noDelete]
  dsimp only
  rw [if_pos equals, lhs, trimmed, cutPrefix_append, rhs, blank]

theorem skipsLine_assignment : skipsLine (assignment path expr) = false := by
  simp [skipsLine, assignment, msgPrefix, List.isPrefixOf]

end Lines

section Runs

variable {library : StructuredLibrary ℚ} {answers : ScriptAnswers ℚ} {maxOps maxIntermediateBytes : Nat}
  {path expr rest : List Char} {start : Char} {data : DataMap ℚ}

/-- What an assignment makes of a document. -/
def assigned (library : StructuredLibrary ℚ) (now : ℚ) (path expr : List Char) (data : DataMap ℚ) :
    Except ScriptFailure (DataMap ℚ) :=
  (exactLibrary library).treeHost.evalLine (exactLibrary library) now data (.assign (String.ofList path) expr)

theorem runLine_assignment {raw : List Char} (uncancelled : ∀ line, answers.cancelled line = none)
    (cap : 0 < maxOps)
    (target : TargetPath path) (line : trimLine raw = assignment path expr) :
    (exactLibrary library).treeHost.runLine (exactLibrary library) answers maxOps maxIntermediateBytes
        { state := data } raw =
      match assigned library (answers.now 0) path (trimSpace expr) data with
      | .error failure => .error failure
      | .ok edited => .ok { state := edited, seen := 1, ops := 1 } := by
  have noCap : ¬ maxOps < 1 := by omega
  have noCheck : ¬ (0 < maxIntermediateBytes ∧ 1 % intermediateCheckInterval = 0) := fun both => absurd both.2 (by decide)
  rw [ScriptHost.runLine, uncancelled]
  dsimp only
  rw [line, skipsLine_assignment, if_neg Bool.false_ne_true, if_neg noCap, parseLine_assignment target]
  rw [assigned]
  split
  case h_1 failed =>
    rw [failed]
  case h_2 done =>
    rw [done, ScriptHost.checkSize, if_neg noCheck]

theorem runLines_full {lines : List (List Char)} {progress after : ScriptProgress (DataMap ℚ)}
    (full : maxOps ≤ progress.ops)
    (done : (exactLibrary library).treeHost.runLines (exactLibrary library) answers maxOps maxIntermediateBytes lines
      progress = .ok after) : after.state = progress.state := by
  induction lines generalizing progress with
  | nil => exact congrArg ScriptProgress.state (Except.ok.inj done).symm
  | cons raw lines hypothesis =>
    rw [ScriptHost.runLines, ScriptHost.runLine] at done
    split at done
    case h_1 => cases done
    case h_2 next ran =>
      split at ran
      · cases ran
      · dsimp only at ran
        split at ran
        · cases ran
          refine (hypothesis ?_ done).trans rfl
          exact full
        · rw [if_pos (by omega)] at ran
          cases ran

theorem splitScriptLines_line {line : List Char} (oneLine : '\n' ∉ line) :
    splitScriptLines (String.ofList line) = ((line.splitOn ';').map trimSpace).filter fun part => part ≠ [] := by
  rw [splitScriptLines, String.toList_ofList, List.splitOn_eq_singleton oneLine, List.flatMap_singleton]

theorem assignment_ne_nil : assignment path expr ≠ [] :=
  List.cons_ne_nil _ _

theorem not_mem_assignment {char : Char} (head : char ∉ msgPrefix) (target : char ∉ path)
    (blank : char ∉ [' ', '=', ' '])
    (apart : char ∉ expr) : char ∉ assignment path expr := by
  simp only [assignment, List.mem_append, not_or]
  exact ⟨⟨⟨head, target⟩, blank⟩, apart⟩

variable {text : List Char}

theorem trimSpace_quoted : trimSpace (quoted text) = quoted text := by
  have quote : isSpace '"' = false := by decide
  refine trimSpace_eq_self (fun char first => Option.some.inj first ▸ quote) fun char last => ?_
  rw [quoted, ← List.cons_append, List.getLast?_concat] at last
  exact Option.some.inj last ▸ quote

theorem runScript_quoted (uncancelled : ∀ line, answers.cancelled line = none) (cap : 0 < maxOps)
    (target : TargetPath path) (oneLine : ';' ∉ text) (noNewline : '\n' ∉ text) :
    (exactLibrary library).treeHost.runScript (exactLibrary library) answers maxOps maxIntermediateBytes
        (String.ofList (assignment path (quoted text))) data =
      assigned library (answers.now 0) path (quoted text) data := by
  have within {char : Char} (other : char ≠ '"') (apart : char ∉ text) : char ∉ quoted text := by
    simp only [quoted, List.mem_cons, List.mem_append, List.not_mem_nil, or_false, not_or]
    exact ⟨other, apart, other⟩
  have semicolon : ';' ∉ quoted text := within (by decide) oneLine
  have whole : ';' ∉ assignment path (quoted text) :=
    not_mem_assignment (by decide) (fun member => target.apart _ member (by decide)) (by decide) semicolon
  have newline : '\n' ∉ assignment path (quoted text) :=
    not_mem_assignment (by decide) (fun member => target.apart _ member (by decide)) (by decide)
      (within (by decide) noNewline)
  have quote : isSpace '"' = false := by decide
  have trimmed : trimSpace (assignment path (quoted text)) = assignment path (quoted text) := by
    rw [quoted, trimSpace_assignment quote]
    exact congrArg _ trimSpace_quoted
  have lines :
      splitScriptLines (String.ofList (assignment path (quoted text))) = [assignment path (quoted text)] := by
    rw [splitScriptLines_line newline, List.splitOn_eq_singleton whole, List.map_singleton, trimmed]
    exact List.filter_cons_of_pos (decide_eq_true assignment_ne_nil)
  have line : trimLine (assignment path (quoted text)) = assignment path (quoted text) :=
    trimLine_assignment quote trimSpace_quoted semicolon
  rw [ScriptHost.runScript, lines, ScriptHost.runLines, runLine_assignment uncancelled cap target line,
    trimSpace_quoted]
  cases assigned library (answers.now 0) path (quoted text) data with
  | error failure => rfl
  | ok edited => rfl

theorem runScript_semicolon (uncancelled : ∀ line, answers.cancelled line = none) (target : TargetPath path)
    (quotes : '"' ∉ text) (noNewline : '\n' ∉ text) (semicolon : ';' ∈ text) {edited : DataMap ℚ}
    (done : (exactLibrary library).treeHost.runScript (exactLibrary library) answers 1 maxIntermediateBytes
      (String.ofList (assignment path (quoted text))) data = .ok edited) :
    ∃ rest, assigned library (answers.now 0) path ('"' :: rest) data = .ok edited ∧ '"' ∉ rest := by
  obtain ⟨front, behind, rfl, apart⟩ := List.eq_append_cons_of_mem semicolon
  have quote : isSpace '"' = false := by decide
  obtain ⟨blanks, -, whole, rest, opens⟩ := trimSpace_cons quote front
  rw [opens] at whole
  have inside : front = rest ++ blanks := (List.cons.inj whole).2
  have within {char : Char} (absent : char ∉ front) : char ∉ rest := fun member =>
    absent (inside ▸ List.mem_append_left blanks member)
  have noQuote : '"' ∉ rest := within fun member => quotes (List.mem_append_left _ member)
  have cut : assignment path (quoted (front ++ ';' :: behind)) =
      assignment path ('"' :: front) ++ ';' :: (behind ++ ['"']) := by
    simp only [assignment, quoted, List.append_assoc, List.cons_append]
  have newline : '\n' ∉ assignment path (quoted (front ++ ';' :: behind)) := by
    refine not_mem_assignment (by decide) (fun member => target.apart _ member (by decide)) (by decide) ?_
    simp only [quoted, List.mem_cons, List.mem_append, List.not_mem_nil, or_false, not_or] at noNewline ⊢
    exact ⟨by decide, noNewline, by decide⟩
  have first : ';' ∉ assignment path ('"' :: front) := by
    refine not_mem_assignment (by decide) (fun member => target.apart _ member (by decide)) (by decide) ?_
    exact List.not_mem_cons_of_ne_of_not_mem (by decide) apart
  have lines : splitScriptLines (String.ofList (assignment path (quoted (front ++ ';' :: behind)))) =
      assignment path ('"' :: rest) ::
        (((behind ++ ['"']).splitOn ';').map trimSpace).filter fun part => part ≠ [] := by
    rw [splitScriptLines_line newline, cut, List.splitOn_append_cons_self_of_not_mem first, List.map_cons,
      trimSpace_assignment quote, opens]
    exact List.filter_cons_of_pos (decide_eq_true assignment_ne_nil)
  have trimmed : trimSpace ('"' :: rest) = '"' :: rest := by
    rw [← opens, trimSpace_trimSpace quote]
  have line : trimLine (assignment path ('"' :: rest)) = assignment path ('"' :: rest) :=
    trimLine_assignment quote trimmed (List.not_mem_cons_of_ne_of_not_mem (by decide) (within apart))
  refine ⟨rest, ?_, noQuote⟩
  rw [ScriptHost.runScript, lines, ScriptHost.runLines, runLine_assignment uncancelled one_pos target line,
    trimmed] at done
  cases result : assigned library (answers.now 0) path ('"' :: rest) data with
  | error failure =>
    rw [result] at done
    cases done
  | ok after =>
    rw [result] at done
    dsimp only at done
    split at done
    case h_1 => cases done
    case h_2 progress ran =>
      have full : 1 ≤ ({ state := after, seen := 1, ops := 1 } : ScriptProgress (DataMap ℚ)).ops := le_rfl
      rw [← Except.ok.inj done, runLines_full full ran]

end Runs

section Exactly

variable {library} {text : List Char}

theorem targetPath_field : TargetPath ['f'] :=
  ⟨List.forall_mem_singleton.mpr (by decide), fun _ last => by rw [← Option.some.inj last]; rfl⟩

theorem evalExpr_of_assigned {now : ℚ} {data : DataMap ℚ} {expr : List Char}
    (stored : assigned library now ['f'] expr data = storedText library ['f'] text data) :
    (exactLibrary library).treeHost.evalExpr (exactLibrary library) now data expr =
      .ok (.string (String.ofList text)) := by
  have field (value : Value ℚ) : setNestedValue (String.ofList ['f']) data value = (put "f" value data, none) := rfl
  have edits (value : Value ℚ) :
      (exactLibrary library).treeHost.setNestedValue (String.ofList ['f']) data value = (put "f" value data, none) :=
    field value
  rw [assigned, ScriptHost.evalLine, storedText, field] at stored
  cases result : (exactLibrary library).treeHost.evalExpr (exactLibrary library) now data expr with
  | error failure =>
    rw [result] at stored
    cases stored
  | ok value =>
    rw [result] at stored
    dsimp only at stored
    rw [edits] at stored
    have same := congrArg (List.lookup "f") (Except.ok.inj stored)
    rw [lookup_put_self, lookup_put_self] at same
    rw [Option.some.inj same]

theorem quote_of_string {rest : List Char}
    (same : Value.string (String.ofList ('"' :: rest)) = (Value.string (String.ofList text) : Value ℚ)) :
    '"' ∈ text := by
  have texts := congrArg String.toList (Value.string.inj same)
  rw [String.toList_ofList, String.toList_ofList] at texts
  rw [← texts]
  exact List.mem_cons_self

/-- A quoted text is stored as it is exactly if it is inert. -/
theorem storedExactly_iff (quotes : '"' ∉ text) (noNewline : '\n' ∉ text) :
    StoredExactly library text ↔ Inert library text := by
  have quote : isSpace '"' = false := by decide
  constructor
  · intro stored
    have oneLine : ';' ∉ text := by
      intro semicolon
      have ran := stored { now := fun _ => 0 } 1 0 ['f'] [] (fun _ => rfl) one_pos targetPath_field
      obtain ⟨rest, same, apart⟩ :=
        runScript_semicolon (fun _ => rfl) targetPath_field quotes noNewline semicolon ran
      have done := evalExpr_of_assigned (same.trans rfl)
      obtain ⟨blanks, -, whole, more, trimmed⟩ := trimSpace_cons quote rest
      rw [ScriptHost.evalExpr, trimmed] at done
      rw [trimmed] at whole
      have within : '"' ∉ more := fun member =>
        apart ((List.cons.inj whole).2 ▸ List.mem_append_left blanks member)
      obtain ⟨further, opens⟩ := opens_of_evalFrom library 0 [] operations more within done
      exact quotes (quote_of_string opens.symm)
    have done (now : ℚ) (data : DataMap ℚ) :
        (exactLibrary library).treeHost.evalFrom (exactLibrary library) now data operations (quoted text) =
          .ok (.string (String.ofList text)) := by
      have ran := stored { now := fun _ => now } 1 0 ['f'] data (fun _ => rfl) one_pos targetPath_field
      rw [runScript_quoted (fun _ => rfl) one_pos targetPath_field oneLine noNewline] at ran
      have done := evalExpr_of_assigned ran
      rwa [ScriptHost.evalExpr, trimSpace_quoted] at done
    have noSum : cut (spelled .add) (quoted text) = none := by
      have opened := opened_quoted quotes
      cases found : cut (spelled .add) (quoted text) with
      | none => rfl
      | some parts =>
        obtain ⟨before, after⟩ := parts
        obtain ⟨more, -, trimmed, -, -, inside⟩ := opened.ahead found
        have sum := done 0 []
        rw [operations, evalFrom_some _ found (opened.ne_nil_of_cut found), ScriptHost.evalExpr, trimmed] at sum
        split at sum
        case h_1 => cases sum
        case h_2 lv first =>
        obtain ⟨rest, rfl⟩ := opens_of_evalFrom library 0 [] operations more inside first
        split at sum
        case h_1 => cases sum
        case h_2 rv second =>
        rw [combine_text library [] List.mem_cons_self, if_pos rfl] at sum
        exact absurd (quote_of_string (Except.ok.inj sum)) quotes
    have within : '"' ∉ (text ++ ['"']).dropLast := (opened_quoted quotes).within
    obtain ⟨noSum, later, quiet⟩ := (idle_quoted library text).mp fun now data =>
      idle_of_evalFrom within noSum ⟨_, done now data⟩
    exact ⟨oneLine, noSum, later, quiet⟩
  · rintro ⟨oneLine, noSum, later, quiet⟩ answers maxOps maxIntermediateBytes path data uncancelled cap target
    have idle := (idle_quoted library text).mpr ⟨noSum, later, quiet⟩ (answers.now 0) data
    have done := idle.evalFrom (opened_quoted quotes) operations
    rw [operand_quoted] at done
    have value : (exactLibrary library).treeHost.evalExpr (exactLibrary library) (answers.now 0) data (quoted text) =
        .ok (.string (String.ofList text)) := by
      rw [ScriptHost.evalExpr, trimSpace_quoted]
      exact done
    have edits : (exactLibrary library).treeHost.setNestedValue = @setNestedValue ℚ := rfl
    rw [runScript_quoted uncancelled cap target oneLine noNewline, assigned, ScriptHost.evalLine, value, storedText,
      edits]
    dsimp only
    rcases setNestedValue (String.ofList path) data (.string (String.ofList text)) with ⟨edited, none | error⟩
    · rfl
    · rfl

end Exactly

end Stored

/-! ### Texts that are inert -/

section Harmless

theorem trimSpace_within (text : List Char) : ∃ before after, (∀ char ∈ before, isSpace char = true) ∧
    (∀ char ∈ after, isSpace char = true) ∧ text = before ++ trimSpace text ++ after := by
  refine ⟨text.takeWhile isSpace, ((text.dropWhile isSpace).reverse.takeWhile isSpace).reverse, fun char member => ?_,
    fun char member => ?_, ?_⟩
  · exact List.mem_takeWhile_imp member
  · exact List.mem_takeWhile_imp (List.mem_reverse.mp member)
  · rw [trimSpace, List.append_assoc, ← List.reverse_append, List.takeWhile_append_dropWhile, List.reverse_reverse,
      List.takeWhile_append_dropWhile]

/-- Blanks, or a text that ends with an operator and blanks: behind it an operand starts. -/
def Boundary (text : List Char) : Prop :=
  (∀ char ∈ text, isSpace char = true) ∨
    ∃ before op blanks, (∀ char ∈ blanks, isSpace char = true) ∧ text = before ++ spelled op ++ blanks

theorem Boundary.append {first second : List Char} (opens : Boundary first) (continues : Boundary second) :
    Boundary (first ++ second) := by
  rcases continues with spaces | ⟨before, op, blanks, spaces, rfl⟩
  · rcases opens with blank | ⟨before, op, blanks, blank, rfl⟩
    · exact Or.inl (List.forall_mem_append.mpr ⟨blank, spaces⟩)
    · exact Or.inr ⟨before, op, blanks ++ second, List.forall_mem_append.mpr ⟨blank, spaces⟩, List.append_assoc ..⟩
  · refine Or.inr ⟨first ++ before, op, blanks, spaces, ?_⟩
    simp only [List.append_assoc]

theorem boundary_nil : Boundary [] :=
  Or.inl fun _ member => absurd member List.not_mem_nil

theorem boundary_spelled (before : List Char) (op : Operation) : Boundary (before ++ spelled op) :=
  Or.inr ⟨before, op, [], fun _ member => absurd member List.not_mem_nil, (List.append_nil _).symm⟩

/-- A text whose evaluation neither sums nor divides, and where no operand is a quote that is left alone. -/
structure Harmless (text : List Char) : Prop where
  noSum : ¬ spelled .add <:+: text
  noDivision : ¬ spelled .div <:+: text
  noSingle : '\'' ∉ text
  notAlone : ∀ front rest, text = front ++ '"' :: rest → ¬ Boundary front

section Parts

variable {text first word last : List Char}

theorem Harmless.part (harmless : Harmless text) (opens : Boundary first)
    (whole : text = first ++ word ++ last) :
    Harmless word := by
  have within : word <:+: text := ⟨first, last, whole.symm⟩
  refine ⟨fun sum => harmless.noSum (sum.trans within), fun quotient => harmless.noDivision (quotient.trans within),
    fun single => harmless.noSingle (within.subset single), fun front rest same boundary => ?_⟩
  refine harmless.notAlone (first ++ front) (rest ++ last) ?_ (opens.append boundary)
  rw [whole, same]
  simp only [List.append_assoc, List.cons_append]

theorem Harmless.trimmed (harmless : Harmless text) : Harmless (trimSpace text) := by
  obtain ⟨first, last, blanks, -, whole⟩ := trimSpace_within text
  exact harmless.part (Or.inl blanks) whole

end Parts

variable (library : StructuredLibrary ℚ) (now : ℚ) (data : DataMap ℚ)

theorem operand_ok {expr : List Char} (double : expr ≠ ['"']) (single : expr ≠ ['\'']) :
    ∃ value, (exactLibrary library).treeHost.operand (exactLibrary library) now data expr = .ok value := by
  rw [ScriptHost.operand]
  split
  case isTrue quotes =>
    rw [if_neg]
    · exact ⟨_, rfl⟩
    · intro one
      obtain ⟨char, rfl⟩ := List.length_eq_one_iff.mp one
      rcases quotes with ⟨opens, -⟩ | ⟨opens, -⟩
      · obtain rfl := (List.cons_prefix_cons.mp (List.isPrefixOf_iff_prefix.mp opens)).1
        exact double rfl
      · obtain rfl := (List.cons_prefix_cons.mp (List.isPrefixOf_iff_prefix.mp opens)).1
        exact single rfl
  case isFalse =>
    -- every other case of it is a value
    repeat' first | exact ⟨_, rfl⟩ | split

theorem combine_ok {op : Operation} (noSum : op ≠ .add) (noDivision : op ≠ .div) (lv rv : Value ℚ) :
    (exactLibrary library).treeHost.combine (exactLibrary library) data op lv rv = none ∨
      ∃ value, (exactLibrary library).treeHost.combine (exactLibrary library) data op lv rv = some (.ok value) := by
  rw [ScriptHost.combine]
  split
  · cases op with
    | add => exact absurd rfl noSum
    | div => exact absurd rfl noDivision
    | sub => exact Or.inr ⟨_, rfl⟩
    | mul => exact Or.inr ⟨_, rfl⟩
  · exact Or.inl (if_neg noSum)

theorem Harmless.evalFrom {text : List Char} (harmless : Harmless text) (left : List Operation) :
    ∃ value, (exactLibrary library).treeHost.evalFrom (exactLibrary library) now data left text = .ok value := by
  match left with
  | [] =>
    rw [evalFrom_nil]
    refine operand_ok library now data ?_ ?_
    · rintro rfl
      exact harmless.notAlone [] [] rfl (Or.inl fun char member => absurd member List.not_mem_nil)
    · rintro rfl
      exact harmless.noSingle List.mem_cons_self
  | op :: others =>
    have further := harmless.evalFrom others
    cases found : cut (spelled op) text with
    | none =>
      rw [evalFrom_none others found]
      exact further
    | some parts =>
      obtain ⟨before, after⟩ := parts
      by_cases empty : before = []
      · subst empty
        rw [evalFrom_empty others found]
        exact further
      · have whole := cut_eq_some found
        have shorter := length_of_cut op found
        have front : text = [] ++ before ++ (spelled op ++ after) := whole.trans (List.append_assoc ..)
        have back : text = before ++ spelled op ++ after ++ [] := whole.trans (List.append_nil _).symm
        obtain ⟨lv, first⟩ := (harmless.part boundary_nil front).trimmed.evalFrom operations
        obtain ⟨rv, second⟩ := (harmless.part (boundary_spelled before op) back).trimmed.evalFrom operations
        have noSum : op ≠ .add := by
          rintro rfl
          exact harmless.noSum ⟨before, after, whole.symm⟩
        have noDivision : op ≠ .div := by
          rintro rfl
          exact harmless.noDivision ⟨before, after, whole.symm⟩
        rw [evalFrom_some others found empty, ScriptHost.evalExpr, first, ScriptHost.evalExpr, second]
        dsimp only
        rcases combine_ok library data noSum noDivision lv rv with none | ⟨value, some⟩
        · rw [none]
          exact further
        · rw [some]
          exact ⟨value, rfl⟩
termination_by (text.length, left.length)
decreasing_by
  · exact Prod.Lex.right _ (Nat.lt_succ_self _)
  · exact Prod.Lex.left _ _ shorter.1
  · exact Prod.Lex.left _ _ shorter.2

/-- A text that is inert by its look: without semicolons and sums, with no operator at its ends, and with no
division behind another operator. -/
structure Plain (text : List Char) : Prop where
  oneLine : ';' ∉ text
  noSingle : '\'' ∉ text
  noSum : ¬ spelled .add <:+: text
  later : ∀ op blanks rest, (∀ char ∈ blanks, isSpace char = true) → text ≠ blanks ++ spelled op ++ rest
  sooner : ∀ front op blanks, (∀ char ∈ blanks, isSpace char = true) → text ≠ front ++ spelled op ++ blanks
  noDivision : ∀ front op rest, text = front ++ spelled op ++ rest → ¬ spelled .div <:+: rest

theorem behind_within {text rest : List Char} (behind : Behind text rest) :
    ∃ front op last, text = front ++ spelled op ++ (rest ++ last) := by
  induction behind with
  | @here op text before after found =>
    refine ⟨before, op, [], ?_⟩
    rw [List.append_nil]
    exact cut_eq_some found
  | @ahead op text before after rest found inner hypothesis =>
    obtain ⟨front, other, last, shape⟩ := hypothesis
    obtain ⟨first, blanks, -, -, whole⟩ := trimSpace_within before
    refine ⟨first ++ front, other, last ++ blanks ++ spelled op ++ after, ?_⟩
    rw [cut_eq_some found, whole, shape]
    simp only [List.append_assoc]

theorem Plain.harmless {text rest : List Char} (plain : Plain text) (quotes : '"' ∉ text)
    (behind : Behind (quoted text) rest) : Harmless rest := by
  obtain ⟨front, op, last, whole⟩ := behind_within behind
  obtain ⟨before, rfl⟩ : ∃ before, front = '"' :: before := by
    cases front with
    | nil => cases (List.cons.inj whole).1
    | cons char before => exact ⟨before, congrArg (· :: before) (List.cons.inj whole).1.symm⟩
  have body : text ++ ['"'] = before ++ spelled op ++ (rest ++ last) := (List.cons.inj whole).2
  have within : rest <:+: quoted text := ⟨'"' :: before ++ spelled op, last, by rw [whole, List.append_assoc]⟩
  obtain ⟨inside, shape⟩ : ∃ inside, rest ++ last = inside ++ ['"'] := by
    rcases List.eq_nil_or_concat (rest ++ last) with none | ⟨inside, char, some⟩
    · rw [none, List.append_nil] at body
      exact absurd body.symm (quote_ne_spelled before text op)
    · rw [some, List.concat_eq_append, ← List.append_assoc] at body
      obtain rfl := List.singleton_inj.mp (List.append_inj_right' body rfl)
      exact ⟨inside, some.trans List.concat_eq_append⟩
  have same : text = before ++ spelled op ++ inside := by
    rw [shape, ← List.append_assoc] at body
    exact List.append_inj_left' body rfl
  refine ⟨fun sum => ?_, fun quotient => ?_, fun single => ?_, fun front more alone boundary => ?_⟩
  · exact plain.noSum ((spelled_infix_quoted .add text).mp (sum.trans within))
  · refine plain.noDivision before op inside same ?_
    have further : spelled .div <:+: quoted inside := by
      rw [quoted, ← shape]
      exact (quotient.trans (List.prefix_append rest last).isInfix).trans (List.suffix_cons _ _).isInfix
    exact (spelled_infix_quoted .div inside).mp further
  · have member := within.subset single
    simp only [quoted, List.mem_cons, List.mem_append, List.not_mem_nil, or_false] at member
    rcases member with different | member | different
    · cases different
    · exact plain.noSingle member
    · cases different
  · -- the quote is the one at the end, and an operator stands before it
    obtain rfl : inside = front := by
      rw [alone, List.append_assoc] at shape
      rcases List.eq_nil_or_concat (more ++ last) with none | ⟨further, char, some⟩
      · rw [List.cons_append, none] at shape
        exact (List.append_inj_left' shape rfl).symm
      · rw [List.cons_append, some, List.concat_eq_append, ← List.cons_append, ← List.append_assoc] at shape
        refine absurd ?_ quotes
        rw [same, ← List.append_inj_left' shape rfl]
        simp
    rcases (boundary_spelled before op).append boundary with spaces | ⟨start, other, blanks, spaces, operator⟩
    · exact plain.sooner before op inside (fun char member => spaces char (List.mem_append_right _ member)) same
    · exact plain.sooner start other blanks spaces (same.trans operator)

/-- Plain texts are inert. -/
theorem Plain.inert {text : List Char} (plain : Plain text) (quotes : '"' ∉ text) : Inert library text := by
  refine ⟨plain.oneLine, plain.noSum, plain.later, fun now data rest behind => ?_⟩
  exact ((plain.harmless quotes behind).trimmed.evalFrom library now data operations)

end Harmless

/-! ### The meaning of scripts -/

/-- Expressions of numbers have their standard meaning exactly where neither a subtraction nor a division
repeats, and a quoted text is stored as it is exactly if it is inert, as plain texts are. -/
theorem standard_meaning_iff (library : StructuredLibrary ℚ) :
    (∀ ops, RightlyRead library ops ↔ SubtractsOnce false ops ∧ DividesOnce false ops) ∧
    (∀ text, '"' ∉ text → '\n' ∉ text → (StoredExactly library text ↔ Inert library text)) ∧
    ∀ text, '"' ∉ text → Plain text → Inert library text :=
  ⟨rightlyRead_iff library, fun _ quotes noNewline => storedExactly_iff quotes noNewline,
    fun _ quotes plain => plain.inert library quotes⟩

/-- A second subtraction is taken from the first one, and a semicolon ends the line of a text. -/
theorem second_subtraction_misread :
    (exactLibrary bareLibrary).treeHost.evalExpr (exactLibrary bareLibrary) 0 [] "10 - 3 - 2".toList =
        .ok (.number 9) ∧
      standardValue (10 : ℚ) [(.sub, 3), (.sub, 2)] = some 5 ∧
      ¬ RightlyRead bareLibrary [.sub, .sub] ∧ ¬ StoredExactly bareLibrary ['a', ';', 'b'] := by
  refine ⟨?_, by decide +kernel, ?_, ?_⟩
  · have ten : IsOperand [] ['1', '0'] 10 := .literal (by decide +kernel)
    have three : IsOperand [] ['3'] 3 := .literal (by decide +kernel)
    have two : IsOperand [] ['2'] 2 := .literal (by decide +kernel)
    have read := evalExpr_joined bareLibrary 0 [] (['1', '0'], 10) [(.sub, ['3'], 3), (.sub, ['2'], 2)] ten
      (by simp [three, two])
    have divisible : Divisible [(Operation.sub, (3 : ℚ)), (.sub, 2)] := by simp [Divisible]
    have nine : firstValue operations (10 : ℚ) [(.sub, 3), (.sub, 2)] = some 9 := by
      rw [firstValue_eq, if_pos divisible]
      norm_num [sweep, signed]
    exact read.trans (congrArg outcome nine)
  · rw [rightlyRead_iff]
    simp [SubtractsOnce]
  · rw [storedExactly_iff (by decide) (by decide)]
    exact fun inert => inert.oneLine (by decide)

end MqConnector
