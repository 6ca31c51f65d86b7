/-
This file asks whether the expressions of scripts have their standard meaning, over exact
rationals, and whether a quoted text is stored as it is.

Numbers and paths with operators between them are read as flat expressions are that split at
the first occurrence of an operator. That is the usual reading where no subtraction and no
division repeats.
-/

import MqConnector.Evaluation
import MqConnector.Scripts

namespace MqConnector

open FlatExpressions ScriptHost

/-! ### Number literals -/

section Literals

/-- A character that is in no number. -/
structure Foreign (char : Char) : Prop where
  digit : char.isDigit = false
  lower : char.toLower = char
  letter : ('a' ≤ char && char ≤ 'f') = false
  mark : char ∉ ['.', 'e', 'E', '+', '-', '_', 'p', 'x', '0']

theorem foreign_of_isSpace {char : Char} (space : isSpace char = true) : Foreign char := by
  have bounds : char.val.toNat ≤ 32 ∨ 133 ≤ char.val.toNat := by
    simp only [isSpace, List.mem_cons, List.not_mem_nil, or_false, Bool.or_eq_true, decide_eq_true_eq,
      Bool.and_eq_true, Char.toNat] at space
    omega
  have outside {low high : Nat} (above : 32 < low) (below : high < 133) :
      ¬ (low ≤ char.val.toNat ∧ char.val.toNat ≤ high) := by omega
  constructor
  · simp only [Char.isDigit, ge_iff_le, UInt32.le_iff_toNat_le, ← Bool.decide_and, decide_eq_false_iff_not]
    exact outside (by decide) (by decide)
  · refine dif_neg ?_
    simp only [ge_iff_le, UInt32.le_iff_toNat_le]
    exact outside (by decide) (by decide)
  · simp only [Char.le_def, UInt32.le_iff_toNat_le, ← Bool.decide_and, decide_eq_false_iff_not]
    exact outside (by decide) (by decide)
  · intro member
    have named : char.val.toNat ∈ [46, 101, 69, 43, 45, 95, 112, 120, 48] :=
      @List.mem_map_of_mem _ _ _ _ (fun char : Char => char.val.toNat) member
    simp only [List.mem_cons, List.not_mem_nil, or_false] at named
    omega

variable {char : Char} {text : List Char} (foreign : Foreign char) (member : char ∈ text)

theorem mem_spanDigits (other : char.isDigit = false) (member : char ∈ text) :
    char ∈ (Slo.spanDigits text).2 := by
  induction text with
  | nil => exact member
  | cons first rest hypothesis =>
    rw [Slo.spanDigits]
    split
    case isTrue digit =>
      refine hypothesis ((List.mem_cons.mp member).resolve_left ?_)
      rintro rfl
      rw [other] at digit
      cases digit
    case isFalse => exact member

section Foreign

include foreign member

theorem mem_spanHex : char ∈ (Slo.spanHex text).2 := by
  induction text with
  | nil => exact member
  | cons first rest hypothesis =>
    rw [Slo.spanHex]
    split
    case h_1 digit found =>
      refine hypothesis ((List.mem_cons.mp member).resolve_left ?_)
      rintro rfl
      simp [foreign.digit, foreign.lower, foreign.letter] at found
    case h_2 => exact member

theorem mem_fraction (span : List Char → List Nat × List Char)
    (passes : ∀ {text : List Char}, char ∈ text → char ∈ (span text).2) :
    char ∈ (match text with
      | '.' :: rest => span rest
      | rest => ([], rest)).2 := by
  split
  case h_1 rest =>
    refine passes ((List.mem_cons.mp member).resolve_left ?_)
    rintro rfl
    exact foreign.mark (by decide)
  case h_2 => exact member

theorem parseExponent_eq_none : Slo.parseExponent text = none := by
  unfold Slo.parseExponent
  split
  case h_1 => exact absurd member List.not_mem_nil
  case h_2 mark rest =>
    split
    case isFalse => rfl
    case isTrue exponent =>
      have behind : char ∈ rest := by
        refine (List.mem_cons.mp member).resolve_left ?_
        rintro rfl
        rcases exponent with rfl | rfl <;> exact foreign.mark (by decide)
      have signed {sign : Char} {digits : List Char} (starts : char ∈ sign :: digits)
          (known : sign ∈ ['.', 'e', 'E', '+', '-', '_', 'p', 'x', '0']) : char ∈ digits := by
        refine (List.mem_cons.mp starts).resolve_left ?_
        rintro rfl
        exact foreign.mark known
      extract_lets sign
      have left : char ∈ (Slo.spanDigits sign.2).2 := by
        refine mem_spanDigits foreign.digit ?_
        dsimp only [sign]
        split
        · exact signed behind (by decide)
        · exact signed behind (by decide)
        · exact behind
      split
      · rfl
      · rename_i same
        have ended := congrArg Prod.snd same
        exact absurd (ended ▸ left) List.not_mem_nil
      · rfl

theorem exponent_eq_none (digits : List Nat) (scaled : Int → ℚ) :
    (if digits = [] then none else (Slo.parseExponent text).map scaled) = none := by
  rw [parseExponent_eq_none foreign member]
  exact ite_self none

theorem parseDecimal_eq_none : Slo.parseDecimal text = none := by
  have left := mem_fraction foreign (mem_spanDigits foreign.digit member) Slo.spanDigits
    (mem_spanDigits foreign.digit)
  exact exponent_eq_none foreign left _ _

theorem power_eq_none (digits : List Nat) (scaled : Int → ℚ) :
    (if digits = [] then none else match text with
      | [] => none
      | mark :: rest => if mark.toLower = 'p' then (Slo.parseExponent ('e' :: rest)).map scaled else none) =
      none := by
  split
  · rfl
  cases text with
  | nil => rfl
  | cons mark rest =>
    dsimp only
    split
    case isFalse => rfl
    case isTrue power =>
      have behind : char ∈ rest := by
        refine (List.mem_cons.mp member).resolve_left ?_
        rintro rfl
        rw [foreign.lower] at power
        refine foreign.mark ?_
        rw [power]
        decide
      rw [parseExponent_eq_none foreign (List.mem_cons_of_mem 'e' behind)]
      rfl

theorem parseHex_eq_none : Slo.parseHex text = none := by
  have left := mem_fraction foreign (mem_spanHex foreign member) Slo.spanHex (mem_spanHex foreign)
  exact power_eq_none foreign left _ _

theorem parseUnsigned_eq_none : Slo.parseUnsigned text = none := by
  rw [Slo.parseUnsigned.eq_def]
  split
  case h_1 mark digit rest =>
    split
    case isTrue hex =>
      refine parseHex_eq_none foreign ?_
      rcases List.mem_cons.mp member with rfl | member
      · exact absurd (by decide) foreign.mark
      · refine (List.mem_cons.mp member).resolve_left ?_
        rintro rfl
        rw [foreign.lower] at hex
        refine foreign.mark ?_
        rw [hex]
        decide
    case isFalse => exact parseDecimal_eq_none foreign member
  case h_2 => exact parseDecimal_eq_none foreign member

theorem parseSigned_eq_none : Slo.parseSigned text = none := by
  have kept : char ∈ text.filter (· != '_') := by
    refine List.mem_filter.mpr ⟨member, bne_iff_ne.mpr ?_⟩
    rintro rfl
    exact foreign.mark (by decide)
  rw [Slo.parseSigned]
  split
  case isTrue => rfl
  case isFalse =>
    split
    case h_1 rest same =>
      rw [same] at kept
      rw [parseUnsigned_eq_none foreign ((List.mem_cons.mp kept).resolve_left ?_)]
      · rfl
      · rintro rfl
        exact foreign.mark (by decide)
    case h_2 rest same =>
      rw [same] at kept
      refine parseUnsigned_eq_none foreign ((List.mem_cons.mp kept).resolve_left ?_)
      rintro rfl
      exact foreign.mark (by decide)
    case h_3 => exact parseUnsigned_eq_none foreign kept

end Foreign

theorem parseSigned_cons_eq_none {first : Char} (digit : first.isDigit = false)
    (mark : first ∉ ['.', '+', '-', '_']) (rest : List Char) : Slo.parseSigned (first :: rest) = none := by
  simp only [List.mem_cons, List.not_mem_nil, or_false, not_or] at mark
  obtain ⟨dot, plus, minus, underscore⟩ := mark
  have kept : (first :: rest).filter (· != '_') = first :: rest.filter (· != '_') :=
    List.filter_cons_of_pos (bne_iff_ne.mpr underscore)
  have decimal (text : List Char) : Slo.parseDecimal (first :: text) = none := by
    have none : Slo.spanDigits (first :: text) = ([], first :: text) := by
      rw [Slo.spanDigits, if_neg (by simp [digit])]
    simp only [Slo.parseDecimal, none]
    split
    · rename_i same
      exact absurd (List.cons.inj same).1 dot
    · exact if_pos rfl
  rw [Slo.parseSigned, kept]
  split
  case isTrue => rfl
  case isFalse =>
    split
    case h_1 same => exact absurd (List.cons.inj same).1 minus
    case h_2 same => exact absurd (List.cons.inj same).1 plus
    case h_3 =>
      rw [Slo.parseUnsigned.eq_def]
      split
      case h_1 same =>
        obtain rfl := (List.cons.inj same).1
        cases digit
      case h_2 => exact decimal _

/-- `strconv.ParseFloat` over exact rationals. -/
def parseRational (text : String) : Option ℚ :=
  match Slo.parseExtended text with
  | some (.finite value) => some value
  | _ => none

theorem parseSigned_of_parseRational {text : List Char} {value : ℚ}
    (read : parseRational (String.ofList text) = some value) : Slo.parseSigned text = some value := by
  unfold parseRational at read
  split at read
  case h_2 => cases read
  case h_1 number finite =>
    obtain rfl := Option.some.inj read
    unfold Slo.parseExtended at finite
    dsimp only at finite
    split at finite
    · cases finite
    · split at finite
      · cases finite
      · split at finite
        · cases finite
        · obtain ⟨number, parsed, bounded⟩ := Option.bind_eq_some_iff.mp finite
          rw [String.toList_ofList] at parsed
          split at bounded
          · obtain rfl := Extended.finite.inj (Option.some.inj bounded)
            exact parsed
          · cases bounded

theorem first_of_parseRational {first : Char} {rest : List Char} {value : ℚ}
    (read : parseRational (String.ofList (first :: rest)) = some value) :
    first.isDigit = true ∨ first ∈ ['.', '+', '-', '_'] := by
  by_contra neither
  rw [not_or] at neither
  have none := parseSigned_cons_eq_none (Bool.eq_false_iff.mpr neither.1) neither.2 rest
  rw [parseSigned_of_parseRational read] at none
  cases none

end Literals

/-! ### Operands -/

/-- A text that stands between operators as a whole: without blanks, and no operator itself. -/
structure Solid (text : List Char) : Prop where
  nonempty : text ≠ []
  blankless : ∀ char ∈ text, isSpace char = false
  notSign : ∀ op, text ≠ [sign op]

/-- An operand of an expression and its number: a literal, or a path that holds a number. -/
inductive IsOperand (data : DataMap ℚ) : List Char → ℚ → Prop
  | literal {text : List Char} {value : ℚ} (read : parseRational (String.ofList text) = some value) :
      IsOperand data text value
  | path {path : List Char} {value : ℚ} (blankless : ∀ char ∈ path, isSpace char = false)
      (found : getNestedValue (String.ofList path) data = .ok (.number value)) :
      IsOperand data (msgPrefix ++ path) value

def exactLibrary (library : StructuredLibrary ℚ) : ScriptLibrary ℚ where
  toStructuredLibrary := library
  parseFloat := parseRational
  add first second := first + second
  sub first second := first - second
  mul first second := first * second
  div first second := first / second
  isZero value := value = 0

/-- A library that decodes and encodes nothing, for scripts that do neither. -/
def bareLibrary : StructuredLibrary ℚ where
  unmarshalJSON _ := .error "unexpected end of JSON input"
  marshalJSON _ := .error "json: unsupported value"
  newMapXml _ := .error "EOF"
  mapXml _ := .error "xml: unsupported value"
  readXml _ := .error "EOF"
  writeXml _ := .error "xml: unsupported value"
  formatNumber value := toString value
  quote text := "\"" ++ text ++ "\""
  compileRegex _ := .error "error parsing regexp"

section Operands

variable {data : DataMap ℚ} {text : List Char} {value : ℚ}

theorem IsOperand.solid (operand : IsOperand data text value) : Solid text := by
  cases operand with
  | literal read =>
    have signed := parseSigned_of_parseRational read
    refine ⟨?_, fun char member => ?_, fun op member => ?_⟩
    · rintro rfl
      cases signed
    · by_contra space
      rw [parseSigned_eq_none (foreign_of_isSpace (Bool.eq_true_of_not_eq_false space)) member] at signed
      cases signed
    · subst member
      cases op <;> cases signed
  | path blankless found =>
    refine ⟨List.cons_ne_nil _ _, fun char member => ?_, fun op member => ?_⟩
    · rcases List.mem_append.mp member with member | member
      · have letters : ∀ char ∈ msgPrefix, isSpace char = false := List.forall_iff_forall_mem.mp (by decide)
        exact letters char member
      · exact blankless char member
    · cases (List.cons.inj member).2

theorem cutPrefix_append (start rest : List Char) : cutPrefix start (start ++ rest) = some rest := by
  rw [cutPrefix, if_pos (List.isPrefixOf_iff_prefix.mpr (List.prefix_append start rest)), List.drop_left]

theorem cutPrefix_eq_some {start rest : List Char} (here : cutPrefix start text = some rest) :
    text = start ++ rest := by
  rw [cutPrefix] at here
  split at here
  case isTrue first =>
    obtain ⟨rest, rfl⟩ := List.isPrefixOf_iff_prefix.mp first
    rw [List.drop_left] at here
    rw [Option.some.inj here]
  case isFalse => cases here

theorem operand_cons {Number State Item : Type} (library : ScriptLibrary Number)
    (host : ScriptHost Number State Item) (now : Number) (state : State) {first : Char} (rest : List Char)
    (other : first ∉ ['"', '\'', 't', 'f', 'n', 'D']) :
    host.operand library now state (first :: rest) =
      match cutPrefix msgPrefix (first :: rest) with
      | some path => .ok ((host.getNestedValue (String.ofList path) state).getD (host.literal .null))
      | none =>
        match library.parseFloat (String.ofList (first :: rest)) with
        | some value => .ok (host.literal (.number value))
        | none => .ok (host.literal (.string (String.ofList (first :: rest)))) := by
  simp only [List.mem_cons, List.not_mem_nil, or_false, not_or] at other
  obtain ⟨double, single, t, f, n, d⟩ := other
  have differs {char : Char} (differ : ¬ first = char) (text : List Char) : first :: rest ≠ char :: text :=
    fun same => differ (List.cons.inj same).1
  have isTrue : first :: rest ≠ "true".toList := differs t _
  have isFalse : first :: rest ≠ "false".toList := differs f _
  have isNull : ¬ (first :: rest = "null".toList ∨ first :: rest = "nil".toList) :=
    not_or.mpr ⟨differs n _, differs n _⟩
  have isNow : first :: rest ≠ "Date.now()".toList := differs d _
  rewrite [ScriptHost.operand, if_neg, if_neg isTrue, if_neg isFalse, if_neg isNull, if_neg isNow]
  · rfl
  · rintro (⟨quoted, -⟩ | ⟨quoted, -⟩)
    · exact double (List.cons_prefix_cons.mp (List.isPrefixOf_iff_prefix.mp quoted)).1.symm
    · exact single (List.cons_prefix_cons.mp (List.isPrefixOf_iff_prefix.mp quoted)).1.symm

theorem operand_eq (library : StructuredLibrary ℚ) (now : ℚ) (operand : IsOperand data text value) :
    (exactLibrary library).treeHost.operand (exactLibrary library) now data text = .ok (.number value) := by
  cases operand with
  | literal read =>
    cases text with
    | nil =>
      have literal : IsOperand data [] value := .literal read
      exact absurd rfl literal.solid.nonempty
    | cons first rest =>
      have leading := first_of_parseRational read
      have other (char : Char) (digit : char.isDigit = false) (mark : char ∉ ['.', '+', '-', '_']) :
          first ≠ char := by
        rintro rfl
        rcases leading with digits | marks
        · rw [digit] at digits
          cases digits
        · exact mark marks
      rw [operand_cons]
      · cases path : cutPrefix msgPrefix (first :: rest) with
        | none =>
          have float : (exactLibrary library).parseFloat (String.ofList (first :: rest)) = some value := read
          dsimp only
          rw [float]
          rfl
        | some path =>
          exact absurd (List.cons.inj (cutPrefix_eq_some path)).1 (other 'm' (by decide) (by decide))
      · simp only [List.mem_cons, List.not_mem_nil, or_false, not_or]
        refine ⟨?_, ?_, ?_, ?_, ?_, ?_⟩ <;> exact other _ (by decide) (by decide)
  | @path path value blankless found =>
    show ScriptHost.operand _ _ _ _ ('m' :: (['s', 'g', '.'] ++ path)) = _
    rw [operand_cons _ _ _ _ _ (by decide)]
    have cut : cutPrefix msgPrefix ('m' :: (['s', 'g', '.'] ++ path)) = some path := cutPrefix_append msgPrefix path
    rw [cut]
    show Except.ok ((getNestedValue (String.ofList path) data).toOption.getD _) = _
    rw [found]
    rfl

end Operands

/-! ### Expressions -/

/-- Operands with operators between them. -/
def joined {Entry : Type} (text : Entry → List Char) (first : List Char) (rest : List (Operation × Entry)) :
    List Char :=
  first ++ rest.flatMap fun entry => spelled entry.1 ++ text entry.2

section Cuts

variable {op other : Operation} {word more : List Char}

theorem trimSpace_eq_self {text : List Char} (first : ∀ char ∈ text.head?, isSpace char = false)
    (last : ∀ char ∈ text.getLast?, isSpace char = false) : trimSpace text = text := by
  have kept {text : List Char} (first : ∀ char ∈ text.head?, isSpace char = false) :
      text.dropWhile isSpace = text := by
    cases text with
    | nil => rfl
    | cons char text => exact List.dropWhile_cons_of_neg (by simp [first char rfl])
  rw [trimSpace, kept first, kept, List.reverse_reverse]
  intro char member
  rw [List.head?_reverse] at member
  exact last char member

theorem sign_ne_blank (op : Operation) : ' ' ≠ sign op := by
  cases op <;> decide

theorem sign_injective {op other : Operation} (same : sign op = sign other) : op = other := by
  cases op <;> cases other <;> first | rfl | cases same

theorem spelled_isPrefixOf {text : List Char} (here : (spelled op).isPrefixOf text = true) :
    ∃ rest, text = ' ' :: sign op :: ' ' :: rest := by
  obtain ⟨rest, whole⟩ := List.isPrefixOf_iff_prefix.mp here
  exact ⟨rest, whole.symm⟩

theorem cut_of_not_isPrefixOf {char : Char} {text : List Char}
    (elsewhere : ∀ rest, char :: text ≠ ' ' :: sign op :: ' ' :: rest) :
    cut (spelled op) (char :: text) = (cut (spelled op) text).map fun parts => (char :: parts.1, parts.2) := by
  rw [cut, if_neg]
  intro here
  obtain ⟨rest, whole⟩ := spelled_isPrefixOf here
  exact elsewhere rest whole

theorem cut_word (blankless : ∀ char ∈ word, isSpace char = false) :
    cut (spelled op) (word ++ more) = (cut (spelled op) more).map fun parts => (word ++ parts.1, parts.2) := by
  induction word with
  | nil => exact (congrFun Option.map_id _).symm
  | cons char word hypothesis =>
    obtain ⟨first, others⟩ := List.forall_mem_cons.mp blankless
    rw [List.cons_append, cut_of_not_isPrefixOf, hypothesis others, Option.map_map]
    · rfl
    · rintro rest whole
      obtain rfl := (List.cons.inj whole).1
      cases first

theorem cut_here : cut (spelled op) (spelled op ++ more) = some ([], more) := by
  have first : (spelled op).isPrefixOf (spelled op ++ more) = true :=
    List.isPrefixOf_iff_prefix.mpr (List.prefix_append _ _)
  exact (if_pos first).trans rfl

theorem cut_other (differ : other ≠ op) (solid : Solid word) :
    cut (spelled op) (spelled other ++ (word ++ more)) =
      (cut (spelled op) (word ++ more)).map fun parts => (spelled other ++ parts.1, parts.2) := by
  show cut (spelled op) (' ' :: sign other :: ' ' :: (word ++ more)) = _
  rw [cut_of_not_isPrefixOf, cut_of_not_isPrefixOf, cut_of_not_isPrefixOf, Option.map_map, Option.map_map]
  · rfl
  · -- the blank behind it is followed by the word, which is not the sign alone
    intro rest whole
    obtain ⟨nonempty, blankless, notSign⟩ := solid
    have inner := (List.cons.inj whole).2
    cases word with
    | nil => exact nonempty rfl
    | cons char word =>
      obtain ⟨rfl, further⟩ := List.cons.inj inner
      cases word with
      | nil => exact notSign op rfl
      | cons next word =>
        obtain ⟨rfl, -⟩ := List.cons.inj further
        exact absurd (blankless ' ' (by simp)) (by decide)
  · intro rest whole
    exact sign_ne_blank other (List.cons.inj whole).1.symm
  · intro rest whole
    exact differ (sign_injective (List.cons.inj (List.cons.inj whole).2).1)

end Cuts

section Joined

variable {Entry : Type} {text : Entry → List Char} {op : Operation} {first : List Char}
  {rest : List (Operation × Entry)}

theorem joined_cons (op : Operation) (held : Entry) : joined text first ((op, held) :: rest) =
    first ++ (spelled op ++ joined text (text held) rest) := by
  rw [joined, joined, List.flatMap_cons, List.append_assoc]

theorem cut_joined (solid : Solid first) (solids : ∀ entry ∈ rest, Solid (text entry.2)) :
    cut (spelled op) (joined text first rest) =
      (splitFirst op rest).map fun parts =>
        (joined text first parts.1, joined text (text parts.2.1) parts.2.2) := by
  induction rest generalizing first with
  | nil =>
    have word := @cut_word op first [] solid.blankless
    rw [joined, List.flatMap_nil, word]
    rfl
  | cons entry rest hypothesis =>
    obtain ⟨other, held⟩ := entry
    obtain ⟨next, others⟩ := List.forall_mem_cons.mp solids
    rw [joined_cons, cut_word solid.blankless, splitFirst]
    split
    case isTrue same =>
      subst same
      rw [cut_here]
      rfl
    case isFalse differ =>
      have inner : cut (spelled op) (spelled other ++ joined text (text held) rest) = _ := cut_other differ next
      rw [inner]
      have further : cut (spelled op) (text held ++ rest.flatMap fun entry => spelled entry.1 ++ text entry.2) = _ :=
        hypothesis next others
      rw [further, Option.map_map, Option.map_map, Option.map_map]
      refine congrArg (Option.map · _) (funext fun parts => ?_)
      exact Prod.ext (joined_cons other held).symm rfl

theorem head_joined (solid : Solid first) : ∃ char more, joined text first rest = char :: more ∧
    isSpace char = false := by
  cases first with
  | nil => exact absurd rfl solid.nonempty
  | cons char more => exact ⟨char, _, rfl, solid.blankless char List.mem_cons_self⟩

theorem getLast_joined (solid : Solid first) (solids : ∀ entry ∈ rest, Solid (text entry.2)) :
    ∀ char ∈ (joined text first rest).getLast?, isSpace char = false := by
  induction rest generalizing first with
  | nil =>
    rw [joined, List.flatMap_nil, List.append_nil]
    exact fun char last => solid.blankless char (List.mem_of_getLast? last)
  | cons entry rest hypothesis =>
    obtain ⟨next, others⟩ := List.forall_mem_cons.mp solids
    obtain ⟨char, more, shape, -⟩ := @head_joined Entry text (text entry.2) rest next
    have behind := hypothesis next others
    rw [joined_cons, shape] at *
    rw [List.getLast?_append_of_ne_nil _ (List.append_ne_nil_of_right_ne_nil _ (List.cons_ne_nil _ _)),
      List.getLast?_append_of_ne_nil _ (List.cons_ne_nil _ _)]
    exact behind

theorem trimSpace_joined (solid : Solid first) (solids : ∀ entry ∈ rest, Solid (text entry.2)) :
    trimSpace (joined text first rest) = joined text first rest := by
  refine trimSpace_eq_self (fun char here => ?_) (getLast_joined solid solids)
  obtain ⟨other, more, shape, visible⟩ := @head_joined Entry text first rest solid
  rw [shape] at here
  exact Option.some.inj here ▸ visible

end Joined

/-- What an expression is to yield: its value, or the error of a division by zero. -/
def outcome : Option ℚ → Except ScriptFailure (Value ℚ)
  | none => .error (.error "script: division by zero")
  | some value => .ok (.number value)

section Evaluation

variable (library : StructuredLibrary ℚ) (now : ℚ) (data : DataMap ℚ)

theorem combine_eq (op : Operation) (left right : ℚ) :
    (exactLibrary library).treeHost.combine (exactLibrary library) data op (.number left) (.number right) =
      some (outcome (applyOperation left right op)) := by
  cases op with
  | add | sub | mul => rfl
  | div =>
    show (if decide (right = 0) = true then _ else _) = _
    rw [applyOperation]
    by_cases zero : right = 0
    · rw [if_pos (decide_eq_true zero), if_pos zero]
      rfl
    · rw [if_neg (by simpa using zero), if_neg zero]
      rfl

theorem evalFrom_joined (left : List Operation) (first : List Char × ℚ)
    (rest : List (Operation × (List Char × ℚ)))
    (operand : IsOperand data first.1 first.2)
    (operands : ∀ entry ∈ rest, IsOperand data entry.2.1 entry.2.2) (inside : ∀ entry ∈ rest, entry.1 ∈ left) :
    (exactLibrary library).treeHost.evalFrom (exactLibrary library) now data left
        (joined Prod.fst first.1 rest) =
      outcome (firstValue left first.2 (rest.map fun entry => (entry.1, entry.2.2))) := by
  have solids (entry : Operation × (List Char × ℚ)) (member : entry ∈ rest) := (operands entry member).solid
  match left with
  | [] =>
    obtain rfl : rest = [] := List.eq_nil_iff_forall_not_mem.mpr fun entry member =>
      absurd (inside entry member) List.not_mem_nil
    rw [evalFrom_nil, joined, List.flatMap_nil, List.append_nil, operand_eq library now operand, List.map_nil,
      firstValue]
    rfl
  | op :: others =>
    have cuts := @cut_joined _ Prod.fst op first.1 rest operand.solid solids
    have splits := splitFirst_map Prod.snd op rest
    cases split : splitFirst op rest with
    | none =>
      rw [split] at cuts splits
      rw [evalFrom_none others cuts, firstValue_of_none splits]
      refine evalFrom_joined others first rest operand operands fun entry member => ?_
      exact (List.mem_cons.mp (inside entry member)).resolve_left (splitFirst_eq_none split entry member)
    | some parts =>
      obtain ⟨before, entry, after⟩ := parts
      rw [split] at cuts splits
      have whole := (splitFirst_eq_some split).1
      obtain ⟨early, held, late⟩ : (∀ entry ∈ before, IsOperand data entry.2.1 entry.2.2) ∧
          IsOperand data entry.1 entry.2 ∧ ∀ entry ∈ after, IsOperand data entry.2.1 entry.2.2 := by
        rw [whole, List.forall_mem_append, List.forall_mem_cons] at operands
        exact operands
      have lhs : (exactLibrary library).treeHost.evalExpr (exactLibrary library) now data
          (joined Prod.fst first.1 before) =
            outcome (firstValue operations first.2 (before.map fun entry => (entry.1, entry.2.2))) := by
        rw [ScriptHost.evalExpr, trimSpace_joined operand.solid fun entry member => (early entry member).solid]
        exact evalFrom_joined operations first before operand early fun entry _ => mem_operations entry.1
      have rhs : (exactLibrary library).treeHost.evalExpr (exactLibrary library) now data
          (joined Prod.fst entry.1 after) =
            outcome (firstValue operations entry.2 (after.map fun entry => (entry.1, entry.2.2))) := by
        rw [ScriptHost.evalExpr, trimSpace_joined held.solid fun entry member => (late entry member).solid]
        exact evalFrom_joined operations entry after held late fun entry _ => mem_operations entry.1
      have nonempty : joined Prod.fst first.1 before ≠ [] :=
        List.append_ne_nil_of_left_ne_nil operand.solid.nonempty _
      rw [evalFrom_some others cuts nonempty, firstValue_of_some splits, lhs]
      cases firstValue operations first.2 (before.map fun entry => (entry.1, entry.2.2)) with
      | none => rfl
      | some left =>
        rw [rhs]
        cases firstValue operations entry.2 (after.map fun entry => (entry.1, entry.2.2)) with
        | none => rfl
        | some right =>
          have combined := combine_eq library data op left right
          dsimp only [outcome, Option.bind_some]
          rw [combined]
          rfl
termination_by (rest.length, left.length)
decreasing_by
  · exact Prod.Lex.right _ (Nat.lt_succ_self _)
  · exact Prod.Lex.left _ _ (by rw [whole, List.length_append, List.length_cons]; omega)
  · exact Prod.Lex.left _ _ (by rw [whole, List.length_append, List.length_cons]; omega)

end Evaluation

/-! ### The standard meaning -/

section Meaning

variable (library : StructuredLibrary ℚ)

/-- The expressions with these operators have their standard meaning, whatever their operands are. -/
def RightlyRead (ops : List Operation) : Prop :=
  ∀ (now : ℚ) (data : DataMap ℚ) (first : List Char × ℚ) (rest : List (Operation × (List Char × ℚ))),
    rest.map Prod.fst = ops → IsOperand data first.1 first.2 →
      (∀ entry ∈ rest, IsOperand data entry.2.1 entry.2.2) →
        (exactLibrary library).treeHost.evalExpr (exactLibrary library) now data (joined Prod.fst first.1 rest) =
          outcome (standardValue first.2 (rest.map fun entry => (entry.1, entry.2.2)))

theorem evalExpr_joined (now : ℚ) (data : DataMap ℚ) (first : List Char × ℚ)
    (rest : List (Operation × (List Char × ℚ))) (operand : IsOperand data first.1 first.2)
    (operands : ∀ entry ∈ rest, IsOperand data entry.2.1 entry.2.2) :
    (exactLibrary library).treeHost.evalExpr (exactLibrary library) now data (joined Prod.fst first.1 rest) =
      outcome (firstValue operations first.2 (rest.map fun entry => (entry.1, entry.2.2))) := by
  rw [ScriptHost.evalExpr, trimSpace_joined operand.solid fun entry member => (operands entry member).solid]
  exact evalFrom_joined library now data operations first rest operand operands fun entry _ => mem_operations entry.1

theorem outcome_injective : Function.Injective outcome := by
  intro first second same
  cases first <;> cases second <;> cases same <;> rfl

def smallLiteral (value : ℚ) : List Char :=
  if value = 1 then ['1'] else ['2']

theorem isOperand_smallLiteral {value : ℚ} (data : DataMap ℚ) (small : value = 1 ∨ value = 2) :
    IsOperand data (smallLiteral value) value := by
  rcases small with rfl | rfl
  · exact .literal (by decide +kernel)
  · exact .literal (by decide +kernel)

/-- The sequences of operations that are read rightly. -/
theorem rightlyRead_iff (ops : List Operation) :
    RightlyRead library ops ↔ SubtractsOnce false ops ∧ DividesOnce false ops := by
  obtain ⟨agree, differ⟩ := @firstValue_eq_standardValue ℚ _ _ _ ops
  constructor
  · intro rightly
    by_contra repeats
    obtain ⟨rest, shape, small, values⟩ := differ repeats
    let entries := rest.map fun entry => (entry.1, smallLiteral entry.2, entry.2)
    have operands (entry : Operation × (List Char × ℚ)) (member : entry ∈ entries) :
        IsOperand [] entry.2.1 entry.2.2 := by
      obtain ⟨held, among, rfl⟩ := List.mem_map.mp member
      exact isOperand_smallLiteral [] (small held among)
    have first : IsOperand [] (smallLiteral 1) 1 := isOperand_smallLiteral [] (Or.inl rfl)
    have operators : entries.map Prod.fst = ops := by
      rw [← shape, List.map_map]
      rfl
    have numbers : (entries.map fun entry => (entry.1, entry.2.2)) = rest := by
      rw [List.map_map]
      exact List.map_id rest
    have read := rightly 0 [] (smallLiteral 1, 1) entries operators first operands
    rw [evalExpr_joined library 0 [] _ entries first operands, numbers] at read
    exact values (outcome_injective read)
  · intro once now data first rest shape operand operands
    rw [evalExpr_joined library now data first rest operand operands, agree once _ _ ?_]
    rw [List.map_map]
    exact shape

end Meaning

end MqConnector
