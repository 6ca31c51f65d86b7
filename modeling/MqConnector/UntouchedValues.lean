/-
This file asks whether the filter, transform and script stages keep the values that they do not
edit, and whether a mask without a match keeps the document.

They decode every number to `float64` and encode it again. A number comes through where it is the
shortest decimal of its rounding, as all integers below 2^53 are, and others are changed wherever
they stand.
-/

import MqConnector.NumberRouting
import MqConnector.PathEdits
import MqConnector.ScriptCopies

namespace MqConnector

open BinaryNumbers NestedMaps

/-! ### Numbers that come through -/

namespace Decimal

/-- Two literals of one value. -/
def Equal (literal other : Decimal) : Prop :=
  literal.value = other.value

/-- A decimal that comes through: where it is in range, the shortest decimal of its rounding is this number. -/
def Survives (literal : Decimal) : Prop :=
  ∀ rounded, roundTo64 literal.negative literal.magnitude = some rounded → rounded.toDecimal.value = literal.value

variable {literal other : Decimal} {decoded : Double}

theorem equal_iff_survives {text : Decimal → String} {exponentFrom : Nat}
    (done : literal.toDouble text = .ok decoded)
    (encoded : decoded.toDecimal exponentFrom = .ok other) : literal.Equal other ↔ literal.Survives := by
  rw [toDouble] at done
  split at done
  case h_1 rounded here =>
    obtain rfl := Except.ok.inj done
    obtain rfl := Except.ok.inj encoded
    constructor
    · intro same found there
      obtain rfl := Option.some.inj (here.symm.trans there)
      exact same.symm
    · exact fun survives => (survives rounded here).symm
  case h_2 => cases done

/-- Integers below 2 ^ 53 come through the decoder and the encoder. -/
theorem survives_of_small {whole : ℤ} (integer : literal.value = whole) (small : |whole| < 2 ^ 53) :
    literal.Survives := by
  intro rounded done
  have size : literal.magnitude = (|whole| : ℤ) := by rw [literal.magnitude_eq, integer, Int.cast_abs]
  have sign := roundTo64_negative done
  have smaller : |(|whole|)| < 2 ^ binary64.precision := by rwa [abs_abs]
  have kept : rounded.magnitude = (|whole| : ℤ) := by
    rw [Finite64.magnitude_eq, roundTo64_value done, abs_of_nonneg literal.magnitude_nonneg, size,
      BinaryFormat.nearest_of_holds (BinaryFormat.holds_intCast smaller.le)]
    split
    · rw [abs_neg, ← Int.cast_abs, abs_abs]
    · rw [← Int.cast_abs, abs_abs]
  have magnitude : rounded.toDecimal.magnitude = literal.magnitude := by
    rw [size, ← kept, Finite64.toDecimal]
    split
    case isTrue zero =>
      rw [zero, Decimal.magnitude, Nat.cast_zero, zero_mul]
    case isFalse =>
      have digits : (((binary64.shortest rounded.magnitude).1.toNat : ℤ) : ℚ) = (binary64.shortest rounded.magnitude).1 :=
        congrArg Int.cast (Int.toNat_of_nonneg (BinaryFormat.shortest_digits_nonneg rounded.nonnegative))
      rw [Int.cast_natCast] at digits
      have exact := BinaryFormat.shortest_of_small smaller
      obtain ⟨count, power⟩ :=
        Int.eq_ofNat_of_zero_le (BinaryFormat.shortest_power_nonneg (BinaryFormat.holds_intCast smaller.le))
      rw [power, Int.toNat_natCast] at exact
      rw [Decimal.magnitude, digits, kept, power, zpow_natCast]
      exact_mod_cast exact
  have signed : rounded.toDecimal.negative = literal.negative := by
    rw [← sign, Finite64.toDecimal]
    split
    · rfl
    · rfl
  rw [Decimal.value, Decimal.value, magnitude, signed]

/-- Minus ten, written with an exponent. -/
theorem ten_survives : (mk true 1 1).Survives :=
  @survives_of_small _ (-10) (by norm_num [value, magnitude]) (by norm_num)

end Decimal

/-! ### Values outside of the edited paths -/

/-- A path that no edited path continues or is continued by. -/
def OutsidePaths (paths : List String) (keys : List String) : Prop :=
  ∀ path ∈ paths, Apart (keysOf path) keys

/-- Outside of the edited paths stand the same values as before, as numbers. -/
def KeepsOutside (paths : List String) (source tree : DataMap Decimal) : Prop :=
  ∀ keys, OutsidePaths paths keys → Option.Rel (Value.Rel Decimal.Equal) ((Value.view Decimal).get keys source)
    ((Value.view Decimal).get keys tree)

/-- Outside of the edited paths stand numbers that come through. -/
def SurvivesOutside (paths : List String) (source : DataMap Decimal) : Prop :=
  ∀ keys, OutsidePaths paths keys → ∀ value, (Value.view Decimal).get keys source = some value →
    value.All Decimal.Survives

section OutsidePaths

variable {library : NumericLibrary} {source tree : DataMap Decimal} {data edited : DataMap Double}
  {paths keys : List String}

theorem equal_reencoded (library : NumericLibrary) (literal : Decimal) (number : Double) (other : Decimal)
    (decoded : literal.toDouble library.literalText = .ok number)
    (encoded : number.toDecimal shortestPrecision = .ok other) : literal.Equal other ↔ literal.Survives :=
  Decimal.equal_iff_survives decoded encoded

/-- Values outside keep their numbers exactly if those come through. -/
theorem keepsOutside_iff (decoded : library.decode source = .ok data)
    (encoded : encodeNumbers edited = .ok tree)
    (kept : ∀ keys, OutsidePaths paths keys → (Value.view Double).get keys edited = (Value.view Double).get keys data) :
    KeepsOutside paths source tree ↔ SurvivesOutside paths source := by
  refine forall_congr' fun keys => forall_congr' fun outside => ?_
  have first := Value.get_of_fieldsRel keys (Value.fieldsRel_of_convert decoded)
  have second := Value.get_of_fieldsRel keys (Value.fieldsRel_of_convert encoded)
  rw [kept keys outside] at second
  generalize (Value.view Decimal).get keys source = before at first
  generalize (Value.view Double).get keys data = between at first second
  generalize (Value.view Decimal).get keys tree = after at second
  cases first with
  | none =>
    cases second with
    | none => exact iff_of_true .none fun value missing => nomatch missing
  | some done =>
    cases second with
    | some undone =>
      have same := Value.rel_iff_all (equal_reencoded library) done undone
      constructor
      · intro related value here
        obtain rfl := Option.some.inj here
        cases related with
        | some related => exact same.mp related
      · exact fun survives => .some (same.mpr (survives _ rfl))

/-! ### Filters -/

theorem get_removeJSONPaths (outside : OutsidePaths paths keys) (data : DataMap Double) :
    (Value.view Double).get keys (removeJSONPaths data paths) = (Value.view Double).get keys data := by
  induction paths generalizing data with
  | nil => rfl
  | cons path paths hypothesis =>
    obtain ⟨apart, outside⟩ := List.forall_mem_cons.mp outside
    have further := hypothesis outside (deleteNestedValue path data)
    rw [deleteNestedValue_eq, View.get_delete_of_apart apart, ← deleteNestedValue_eq] at further
    exact further

variable {message : Bytes} {out : StageOutput}

theorem unmarshalJSON_eq_ok (parsed : library.parseJSON message = .ok (some source))
    {read : Option (DataMap Double)}
    (done : library.unmarshalJSON message = .ok read) : ∃ data, library.decode source = .ok data ∧ read = some data := by
  rw [NumericLibrary.unmarshalJSON, parsed] at done
  dsimp only at done
  cases decoded : library.decode source with
  | error err =>
    rw [decoded] at done
    cases done
  | ok data =>
    rw [decoded] at done
    exact ⟨data, rfl, (Except.ok.inj done).symm⟩

theorem marshalJSON_eq_ok {printed : Bytes} (done : library.marshalJSON (some data) = .ok printed) :
    ∃ tree, encodeNumbers data = .ok tree ∧ printed = library.printJSON (some tree) := by
  rw [NumericLibrary.marshalJSON] at done
  cases encoded : encodeNumbers data with
  | error err =>
    rw [encoded] at done
    cases done
  | ok tree =>
    rw [encoded] at done
    exact ⟨tree, rfl, (Except.ok.inj done).symm⟩

theorem filterExecute_eq_ok (some_paths : paths ≠ []) (parsed : library.parseJSON message = .ok (some source))
    (done : library.structured.filterExecute paths message .json = .ok out) : ∃ data tree,
    library.decode source = .ok data ∧ encodeNumbers (removeJSONPaths data paths) = .ok tree ∧
    out.body = library.printJSON (some tree) := by
  rw [StructuredLibrary.filterExecute, if_neg some_paths] at done
  dsimp only at done
  split at done
  case h_1 => cases done
  case h_2 read unmarshal =>
    obtain ⟨data, decoded, rfl⟩ := unmarshalJSON_eq_ok parsed unmarshal
    split at done
    case h_1 => cases done
    case h_2 printed marshal =>
      obtain ⟨tree, encoded, rfl⟩ := marshalJSON_eq_ok marshal
      obtain rfl := Except.ok.inj done
      exact ⟨data, tree, decoded, encoded, rfl⟩

/-! ### Transforms -/

def Transform.editedPaths (rule : Transform) : List String :=
  if rule.transformType = "rename" ∨ rule.transformType = "move" then [rule.sourcePath, rule.targetPath]
  else [rule.sourcePath]

theorem get_setOrFail {path : String} {value : Value Double} (apart : Apart (keysOf path) keys)
    (done : library.structured.setOrFail path data value = .ok edited) :
    (Value.view Double).get keys edited = (Value.view Double).get keys data := by
  rw [StructuredLibrary.setOrFail] at done
  split at done
  case h_1 stored set =>
    obtain rfl := Except.ok.inj done
    exact View.get_set_of_apart apart ((setNestedValue_eq_none path data value).mp set)
  case h_2 => cases done

theorem get_applyRule {rule : Transform} (outside : OutsidePaths rule.editedPaths keys)
    (done : library.structured.applyRule data rule = .ok edited) :
    (Value.view Double).get keys edited = (Value.view Double).get keys data := by
  have apart : Apart (keysOf rule.sourcePath) keys := by
    refine outside _ ?_
    rw [Transform.editedPaths]
    split <;> exact List.mem_cons_self
  have deleted : (Value.view Double).get keys (deleteNestedValue rule.sourcePath data) =
      (Value.view Double).get keys data := by
    rw [deleteNestedValue_eq, View.get_delete_of_apart apart]
  rw [StructuredLibrary.applyRule] at done
  split at done
  case isTrue moves =>
    split at done
    case h_1 =>
      obtain rfl := Except.ok.inj done
      rfl
    case h_2 value found =>
      have target : Apart (keysOf rule.targetPath) keys := by
        refine outside _ ?_
        rw [Transform.editedPaths, if_pos moves]
        exact List.mem_cons_of_mem _ List.mem_cons_self
      exact (get_setOrFail target done).trans deleted
  case isFalse =>
    split at done
    case isTrue =>
      split at done
      case h_1 =>
        obtain rfl := Except.ok.inj done
        rfl
      case h_2 =>
        split at done
        case h_1 => cases done
        case h_2 => exact get_setOrFail apart done
    case isFalse =>
      split at done
      case isTrue => exact get_setOrFail apart done
      case isFalse =>
        split at done
        case isTrue =>
          obtain rfl := Except.ok.inj done
          exact deleted
        case isFalse => cases done

/-- Rules keep the values outside of their paths. -/
theorem get_applyRules {rules : List Transform}
    (outside : OutsidePaths (rules.flatMap Transform.editedPaths) keys)
    (done : library.structured.applyRules data rules = .ok edited) :
    (Value.view Double).get keys edited = (Value.view Double).get keys data := by
  induction rules generalizing data with
  | nil =>
    obtain rfl := Except.ok.inj done
    rfl
  | cons rule rules hypothesis =>
    rw [StructuredLibrary.applyRules] at done
    split at done
    case h_1 => cases done
    case h_2 between applied =>
      have here : OutsidePaths rule.editedPaths keys := fun path member =>
        outside path (List.mem_flatMap.mpr ⟨rule, List.mem_cons_self, member⟩)
      have there : OutsidePaths (rules.flatMap Transform.editedPaths) keys := fun path member => by
        obtain ⟨other, among, edits⟩ := List.mem_flatMap.mp member
        exact outside path (List.mem_flatMap.mpr ⟨other, List.mem_cons_of_mem rule among, edits⟩)
      exact (hypothesis there done).trans (get_applyRule here applied)

theorem decodeStructured_eq_ok (parsed : library.parseJSON message = .ok (some source))
    {read : Option (DataMap Double)} (done : library.structured.decodeStructured message .json = .ok read) :
    ∃ data, library.decode source = .ok data ∧ read = some data := by
  rw [StructuredLibrary.decodeStructured] at done
  split at done
  case h_1 => cases done
  case h_2 unmarshal =>
    obtain rfl := Except.ok.inj done
    exact unmarshalJSON_eq_ok parsed unmarshal

/-- The rules in the order in which they are applied. -/
def inOrder (rules : List Transform) : List Transform :=
  rules.insertionSort fun first second => first.order ≤ second.order

theorem outside_inOrder {rules : List Transform}
    (outside : OutsidePaths (rules.flatMap Transform.editedPaths) keys) :
    OutsidePaths ((inOrder rules).flatMap Transform.editedPaths) keys := by
  intro path member
  obtain ⟨rule, among, edits⟩ := List.mem_flatMap.mp member
  exact outside path (List.mem_flatMap.mpr ⟨rule, (List.mem_insertionSort _).mp among, edits⟩)

theorem applyRule_of_applyRules {rule : Transform}
    (applied : library.structured.applyRules data (inOrder [rule]) = .ok edited) :
    library.structured.applyRule data rule = .ok edited := by
  rw [show inOrder [rule] = [rule] from rfl, StructuredLibrary.applyRules] at applied
  split at applied
  case h_1 => cases applied
  case h_2 other done =>
    obtain rfl := Except.ok.inj applied
    exact done

theorem transformExecute_eq_ok {rules : List Transform} (some_rules : rules ≠ [])
    (parsed : library.parseJSON message = .ok (some source))
    (done : library.structured.transformExecute rules message .json = .ok out) : ∃ data edited tree,
    library.decode source = .ok data ∧ library.structured.applyRules data (inOrder rules) = .ok edited ∧
    encodeNumbers edited = .ok tree ∧ out.body = library.printJSON (some tree) := by
  rw [StructuredLibrary.transformExecute, if_neg some_rules] at done
  split at done
  case h_1 => cases done
  case h_2 decode =>
    obtain ⟨data, -, same⟩ := decodeStructured_eq_ok parsed decode
    cases same
  case h_3 data decode =>
    obtain ⟨data, decoded, same⟩ := decodeStructured_eq_ok parsed decode
    obtain rfl := Option.some.inj same
    split at done
    case h_1 => cases done
    case h_2 edited applied =>
      split at done
      case h_1 => cases done
      case h_2 printed marshal =>
        obtain ⟨tree, encoded, rfl⟩ := marshalJSON_eq_ok marshal
        obtain rfl := Except.ok.inj done
        exact ⟨_, edited, tree, decoded, applied, encoded, rfl⟩

theorem transformExecute_of_applied {library : StructuredLibrary Double} {rules : List Transform}
    {format : Format}
    {printed : Bytes} (some_rules : rules ≠ []) (decoded : library.decodeStructured message format = .ok (some data))
    (applied : library.applyRules data (inOrder rules) = .ok edited)
    (encoded : library.encodeStructured edited format = .ok printed) :
    library.transformExecute rules message format =
      .ok { body := printed, format := some format, result := none } := by
  rw [inOrder] at applied
  rw [StructuredLibrary.transformExecute, if_neg some_rules, decoded]
  dsimp only
  rw [applied]
  dsimp only
  rw [encoded]

/-! ### Masks -/

/-- A document with the same values, as numbers. -/
def Unchanged (source tree : DataMap Decimal) : Prop :=
  Value.fieldsRel Decimal.Equal source tree

/-- A mask that has nothing to mask, or a text that the replacement leaves. -/
def MaskLeaves (library : NumericLibrary) (rule : Transform) (source : DataMap Decimal) : Prop :=
  ∀ value, getNestedValue rule.sourcePath source = .ok value → ∃ text replaceAllString, value = .string text ∧
    library.compileRegex rule.maskPattern = .ok replaceAllString ∧ replaceAllString text rule.maskReplace = text

theorem unchanged_iff (decoded : library.decode source = .ok data) (encoded : encodeNumbers data = .ok tree) :
    Unchanged source tree ↔ Value.fieldsAll Decimal.Survives source :=
  Value.fieldsRel_iff_all (equal_reencoded library) (Value.fieldsRel_of_convert decoded)
    (Value.fieldsRel_of_convert encoded)

theorem eq_string_of_string_rel {Former Latter : Type} {related : Former → Latter → Prop} {text : String}
    {value : Value Latter} (alike : (Value.string text).Rel related value) : value = .string text := by
  cases value with
  | string other => exact congrArg Value.string (Eq.symm alike)
  | null | bool | number | array | object => exact alike.elim

theorem eq_string_of_rel_string {Former Latter : Type} {related : Former → Latter → Prop} {text : String}
    {value : Value Former} (alike : value.Rel related (.string text)) : value = .string text := by
  cases value with
  | string other => exact congrArg Value.string alike
  | null | bool | number | array | object => exact alike.elim

theorem applyRule_mask {rule : Transform} (mask : rule.transformType = "mask")
    (done : library.structured.applyRule data rule = .ok edited) :
    (∃ err, getNestedValue rule.sourcePath data = .error err) ∧ edited = data ∨
      ∃ value replaceAllString, getNestedValue rule.sourcePath data = .ok value ∧
        library.compileRegex rule.maskPattern = .ok replaceAllString ∧
        (Value.view Double).set (keysOf rule.sourcePath)
          (.string (replaceAllString (value.sprintV (formatDouble shortestPrecision)) rule.maskReplace)) data =
            some edited := by
  rw [StructuredLibrary.applyRule, if_neg (by rw [mask]; decide), if_pos mask] at done
  split at done
  case h_1 err missing => exact .inl ⟨⟨err, missing⟩, (Except.ok.inj done).symm⟩
  case h_2 value found =>
    split at done
    case h_1 => cases done
    case h_2 replaceAllString compiled =>
      rw [StructuredLibrary.setOrFail] at done
      split at done
      case h_1 stored set =>
        obtain rfl := Except.ok.inj done
        exact .inr ⟨value, replaceAllString, found, compiled, (setNestedValue_eq_none _ _ _).mp set⟩
      case h_2 => cases done

/-- When a mask leaves a document unchanged. -/
theorem unchanged_mask_iff {rule : Transform} (mask : rule.transformType = "mask")
    (decoded : library.decode source = .ok data) (applied : library.structured.applyRule data rule = .ok edited)
    (encoded : encodeNumbers edited = .ok tree) :
    Unchanged source tree ↔ MaskLeaves library rule source ∧ Value.fieldsAll Decimal.Survives source := by
  have before := Value.fieldsRel_of_convert decoded
  have read := Value.getNestedValue_of_fieldsRel rule.sourcePath before
  rcases applyRule_mask mask applied with ⟨⟨err, missing⟩, rfl⟩ | ⟨value, replaceAllString, found, compiled, set⟩
  · rw [unchanged_iff decoded encoded]
    refine (and_iff_right fun value here => ?_).symm
    rw [missing, here] at read
    cases read
  · obtain ⟨held, here, alike⟩ : ∃ held, getNestedValue rule.sourcePath source = .ok held ∧
        held.Rel (fun literal number => literal.toDouble library.literalText = .ok number) value := by
      rw [found] at read
      cases here : getNestedValue rule.sourcePath source with
      | error =>
        rw [here] at read
        cases read
      | ok held =>
        rw [here] at read
        cases read with
        | some alike => exact ⟨held, rfl, alike⟩
    -- a text that the replacement leaves is stored as it was
    have stored {text : String} (same : value = .string text) (left : replaceAllString text rule.maskReplace = text) :
        edited = data := by
      subst same
      have written : (Value.view Double).set (keysOf rule.sourcePath) (.string text) data = some edited := by
        rwa [Value.sprintV, left] at set
      exact Option.some.inj (written.symm.trans (View.set_of_get (getNestedValue_eq_ok.mp found)))
    constructor
    · intro unchanged
      have after := Value.getNestedValue_of_fieldsRel rule.sourcePath unchanged
      have printed := Value.getNestedValue_of_fieldsRel rule.sourcePath (Value.fieldsRel_of_convert encoded)
      rw [getNestedValue_eq_ok.mpr (View.get_set (keysOf_ne_nil rule.sourcePath) set)] at printed
      rw [here] at after
      generalize (getNestedValue rule.sourcePath tree).toOption = last at after printed
      cases printed with
      | some written =>
        obtain rfl := eq_string_of_string_rel written
        cases after with
        | some same =>
          -- the value was the text that is stored, so that the mask leaves it
          generalize replaced : replaceAllString (value.sprintV (formatDouble shortestPrecision)) rule.maskReplace =
            text at same
          obtain rfl := eq_string_of_rel_string same
          have text_eq := eq_string_of_string_rel alike
          have left : replaceAllString text rule.maskReplace = text := by rwa [text_eq, Value.sprintV] at replaced
          obtain rfl := stored text_eq left
          refine ⟨fun other there => ?_, (unchanged_iff decoded encoded).mp unchanged⟩
          obtain rfl := Except.ok.inj (here.symm.trans there)
          exact ⟨text, replaceAllString, rfl, compiled, left⟩
    · rintro ⟨leaves, survive⟩
      obtain ⟨text, replacer, rfl, made, left⟩ := leaves held here
      obtain rfl := Except.ok.inj (compiled.symm.trans made)
      obtain rfl := stored (eq_string_of_string_rel alike) left
      exact (unchanged_iff decoded encoded).mpr survive

end OutsidePaths

/-! ### Scripts -/

/-- What the scripts use besides: the arithmetic of `float64`. -/
structure ScriptNumerics extends NumericLibrary where
  add : Double → Double → Double
  sub : Double → Double → Double
  mul : Double → Double → Double
  div : Double → Double → Double

def ScriptNumerics.scripts (library : ScriptNumerics) : ScriptLibrary Double where
  toStructuredLibrary := library.structured
  parseFloat := parseDouble
  add := library.add
  sub := library.sub
  mul := library.mul
  div := library.div
  isZero number := number.extended = .finite 0

/-- The paths that a line writes to. -/
def ScriptLine.editedPaths : ScriptLine → List String
  | .delete path => [path]
  | .assign path _ => [path]
  | .deleteRoot | .ignored => []

/-- The paths that the lines of a script edit. -/
def scriptPaths (lines : List (List Char)) : List String :=
  lines.flatMap fun raw => if skipsLine (trimLine raw) then [] else (parseLine (trimLine raw)).editedPaths

section Scripts

variable {library : ScriptLibrary Double} {data edited : DataMap Double} {keys : List String}
  {answers : ScriptAnswers Double} {maxOps maxIntermediateBytes : Nat}

theorem get_evalLine {now : Double} {line : ScriptLine} (outside : OutsidePaths line.editedPaths keys)
    (done : library.treeHost.evalLine library now data line = .ok edited) :
    (Value.view Double).get keys edited = (Value.view Double).get keys data := by
  cases line with
  | deleteRoot => cases done
  | ignored =>
    obtain rfl := Except.ok.inj done
    rfl
  | delete path =>
    obtain rfl := Except.ok.inj done
    show (Value.view Double).get keys (deleteNestedValue path data) = _
    rw [deleteNestedValue_eq, View.get_delete_of_apart (outside path List.mem_cons_self)]
  | assign path expr =>
    rw [ScriptHost.evalLine] at done
    split at done
    case h_1 => cases done
    case h_2 value _ =>
      split at done
      case h_1 stored set =>
        obtain rfl := Except.ok.inj done
        exact View.get_set_of_apart (outside path List.mem_cons_self) ((setNestedValue_eq_none path data value).mp set)
      case h_2 => cases done

theorem get_runLine {progress next : ScriptProgress (DataMap Double)} {raw : List Char}
    (outside : OutsidePaths (scriptPaths [raw]) keys)
    (done : library.treeHost.runLine library answers maxOps maxIntermediateBytes progress raw = .ok next) :
    (Value.view Double).get keys next.state = (Value.view Double).get keys progress.state := by
  rw [ScriptHost.runLine] at done
  split at done
  case h_1 => cases done
  case h_2 =>
    dsimp only at done
    split at done
    case isTrue =>
      obtain rfl := Except.ok.inj done
      rfl
    case isFalse executed =>
      split at done
      case isTrue => cases done
      case isFalse =>
        split at done
        case h_1 => cases done
        case h_2 state ran =>
          split at done
          case h_1 => cases done
          case h_2 =>
            obtain rfl := Except.ok.inj done
            refine get_evalLine (fun path member => outside path ?_) ran
            rw [scriptPaths, List.flatMap_singleton, if_neg executed]
            exact member

theorem get_runLines (lines : List (List Char)) {progress last : ScriptProgress (DataMap Double)}
    (outside : OutsidePaths (scriptPaths lines) keys)
    (done : library.treeHost.runLines library answers maxOps maxIntermediateBytes lines progress = .ok last) :
    (Value.view Double).get keys last.state = (Value.view Double).get keys progress.state := by
  induction lines generalizing progress with
  | nil =>
    obtain rfl := Except.ok.inj done
    rfl
  | cons raw lines hypothesis =>
    rw [ScriptHost.runLines] at done
    split at done
    case h_1 => cases done
    case h_2 next ran =>
      have first : OutsidePaths (scriptPaths [raw]) keys := fun path member => outside path (by
        rw [scriptPaths, List.flatMap_singleton] at member
        exact List.mem_flatMap.mpr ⟨raw, List.mem_cons_self, member⟩)
      have rest : OutsidePaths (scriptPaths lines) keys := fun path member => outside path (by
        obtain ⟨other, among, edits⟩ := List.mem_flatMap.mp member
        exact List.mem_flatMap.mpr ⟨other, List.mem_cons_of_mem raw among, edits⟩)
      exact (hypothesis rest done).trans (get_runLine first ran)

mutual

theorem distinct_of_rel {Former Latter : Type} {related : Former → Latter → Prop} :
    ∀ {value : Value Former} {other : Value Latter}, value.Rel related other → value.Distinct → other.Distinct
  | .null, .null, _, _ => trivial
  | .bool _, .bool _, _, _ => trivial
  | .number _, .number _, _, _ => trivial
  | .string _, .string _, _, _ => trivial
  | .array _, .array _, _, _ => trivial
  | .object _, .object _, alike, distinct => by
    obtain ⟨names, below⟩ := distinctFields_of_rel alike distinct.2
    exact ⟨names ▸ distinct.1, below⟩

theorem distinctFields_of_rel {Former Latter : Type} {related : Former → Latter → Prop} :
    ∀ {fields : DataMap Former} {others : DataMap Latter}, Value.fieldsRel related fields others →
      distinctFields fields → fields.map Prod.fst = others.map Prod.fst ∧ distinctFields others
  | [], [], _, _ => ⟨rfl, trivial⟩
  | (_, _) :: _, (_, _) :: _, alike, distinct => by
    obtain ⟨names, below⟩ := distinctFields_of_rel alike.2.2 distinct.2
    exact ⟨congrArg₂ List.cons alike.1 names, distinct_of_rel alike.2.1 distinct.1, below⟩

end

end Scripts

/-- Every executed line of a script edits a map that is reached on one way, and stores nothing that holds this map. -/
def CopiesLines (library : ScriptNumerics) (answers : ScriptAnswers Double) (stage : ScriptStage)
    (source : DataMap Decimal) : Prop :=
  ∀ data, library.decode source = .ok data →
    library.scripts.memoryHost.EveryLine library.scripts answers stage.opCap stage.intermediateByteCap
      ScriptMemory.CopiesLine (splitScriptLines stage.script) { state := ScriptMemory.load data }

section ScriptStages

variable {library : ScriptNumerics} {answers : ScriptAnswers Double} {stage : ScriptStage} {message : Bytes}
  {source : DataMap Decimal} {out : StageOutput}

theorem scriptExecute_eq_ok (written : trimSpace stage.script.toList ≠ [])
    (parsed : library.parseJSON message = .ok (some source)) (distinct : (Value.object source).Distinct)
    (copies : CopiesLines library answers stage source)
    (done : stage.execute library.scripts library.scripts.memoryHost ScriptMemory.load answers message .json = .ok out) :
    ∃ data state edited tree, library.decode source = .ok data ∧
      library.scripts.memoryHost.runScript library.scripts answers stage.opCap stage.intermediateByteCap stage.script
        (ScriptMemory.load data) = .ok state ∧ state.document = some edited ∧
      (∀ keys, OutsidePaths (scriptPaths (splitScriptLines stage.script)) keys →
        (Value.view Double).get keys edited = (Value.view Double).get keys data) ∧
      encodeNumbers edited = .ok tree ∧ out.body = library.printJSON (some tree) := by
  rw [ScriptStage.execute, if_neg written] at done
  split at done
  case isTrue => cases done
  case isFalse =>
    split at done
    case h_1 => cases done
    case h_2 decode =>
      obtain ⟨data, -, same⟩ := decodeStructured_eq_ok parsed decode
      cases same
    case h_3 read decode =>
      obtain ⟨data, decoded, same⟩ := decodeStructured_eq_ok parsed decode
      obtain rfl : read = data := Option.some.inj same
      have loaded : (Value.object read).Distinct :=
        distinct_of_rel (show (Value.object source).Rel _ (.object read) from Value.fieldsRel_of_convert decoded) distinct
      have start : SameProgress { state := ScriptMemory.load read } { state := read } :=
        ⟨holds_load loaded, rfl, rfl⟩
      have alike := runLines_alike (splitScriptLines stage.script) start (copies read decoded)
      split at done
      case h_1 => cases done
      case h_2 =>
        split at done
        case h_1 => cases done
        case h_2 printed ran =>
          split at done
          case isTrue => cases done
          case isFalse =>
            obtain rfl := Except.ok.inj done
            rw [ScriptHost.runAndEncode, ScriptHost.runScript] at ran
            generalize memory : library.scripts.memoryHost.runLines library.scripts answers stage.opCap stage.intermediateByteCap
              (splitScriptLines stage.script) { state := ScriptMemory.load read } = memoryRun at ran alike
            generalize treeRun : library.scripts.treeHost.runLines library.scripts answers stage.opCap
              stage.intermediateByteCap (splitScriptLines stage.script) { state := read } = tree at alike
            cases alike with
            | error failure => cases ran
            | @ok progress twin both =>
              dsimp only at ran
              have encodes : library.scripts.treeHost.encodeStructured .json twin.state =
                  some (library.marshalJSON (some twin.state)) := rfl
              rw [encode_alike both.holds, encodes] at ran
              have marshal : library.marshalJSON (some twin.state) = .ok printed := by
                cases answer : library.marshalJSON (some twin.state) with
                | error err =>
                  rw [answer] at ran
                  cases ran
                | ok other =>
                  rw [answer] at ran
                  exact congrArg Except.ok (Except.ok.inj ran)
              obtain ⟨tree, encoded, rfl⟩ := marshalJSON_eq_ok marshal
              refine ⟨read, progress.state, twin.state, tree, decoded, ?_, holds_iff.mp both.holds,
                fun keys outside => get_runLines _ outside treeRun, encoded, rfl⟩
              rw [ScriptHost.runScript, memory]

end ScriptStages

/-! ### What the stages print -/

section Prints

variable (library : ScriptNumerics) (source tree : DataMap Decimal) (printed : Bytes)

def FilterPrints (paths : List String) : Prop :=
  ∃ data, library.decode source = .ok data ∧ encodeNumbers (removeJSONPaths data paths) = .ok tree ∧
    printed = library.printJSON (some tree)

def TransformPrints (rules : List Transform) : Prop :=
  ∃ data edited, library.decode source = .ok data ∧ library.structured.applyRules data (inOrder rules) = .ok edited ∧
    encodeNumbers edited = .ok tree ∧ printed = library.printJSON (some tree)

def ScriptPrints (answers : ScriptAnswers Double) (stage : ScriptStage) : Prop :=
  ∃ data state edited, library.decode source = .ok data ∧
    library.scripts.memoryHost.runScript library.scripts answers stage.opCap stage.intermediateByteCap stage.script
      (ScriptMemory.load data) = .ok state ∧ state.document = some edited ∧
    encodeNumbers edited = .ok tree ∧ printed = library.printJSON (some tree)

end Prints

/-- Stages keep the values outside of the paths that they edit, and masks without a match the document. -/
structure KeepsUntouched (library : ScriptNumerics) (jsonText : Value Decimal → String) : Prop where
  filter : ∀ paths message source out tree, paths ≠ [] → library.parseJSON message = .ok (some source) →
    library.structured.filterExecute paths message .json = .ok out → FilterPrints library source tree out.body paths →
    KeepsOutside paths source tree
  transform : ∀ rules message source out tree, rules ≠ [] → library.parseJSON message = .ok (some source) →
    library.structured.transformExecute rules message .json = .ok out →
    TransformPrints library source tree out.body rules →
    KeepsOutside (rules.flatMap Transform.editedPaths) source tree
  script : ∀ (stage : ScriptStage) answers message source out tree, trimSpace stage.script.toList ≠ [] →
    library.parseJSON message = .ok (some source) →
    stage.execute library.scripts library.scripts.memoryHost ScriptMemory.load answers message .json = .ok out →
    ScriptPrints library source tree out.body answers stage →
    KeepsOutside (scriptPaths (splitScriptLines stage.script)) source tree
  mask : ∀ (rule : Transform) message source out tree value, rule.transformType = "mask" →
    library.parseJSON message = .ok (some source) → getNestedValue rule.sourcePath source = .ok value →
    library.matchString rule.maskPattern (jsonText value) = some false →
    library.structured.transformExecute [rule] message .json = .ok out →
    TransformPrints library source tree out.body [rule] → Unchanged source tree

/-- When stages do: where the numbers come through, and a mask where it leaves the text besides. A stage without
edits passes the message on. -/
structure UntouchedWhere (library : ScriptNumerics) : Prop where
  filter : ∀ paths message source out, library.parseJSON message = .ok (some source) →
    library.structured.filterExecute paths message .json = .ok out →
    paths = [] ∧ out.body = message ∨ paths ≠ [] ∧ ∃ tree, FilterPrints library source tree out.body paths ∧
      (KeepsOutside paths source tree ↔ SurvivesOutside paths source)
  transform : ∀ rules message source out, library.parseJSON message = .ok (some source) →
    library.structured.transformExecute rules message .json = .ok out →
    rules = [] ∧ out.body = message ∨ rules ≠ [] ∧ ∃ tree, TransformPrints library source tree out.body rules ∧
      (KeepsOutside (rules.flatMap Transform.editedPaths) source tree ↔
        SurvivesOutside (rules.flatMap Transform.editedPaths) source)
  script : ∀ (stage : ScriptStage) answers message source out, library.parseJSON message = .ok (some source) →
    (Value.object source).Distinct → CopiesLines library answers stage source →
    stage.execute library.scripts library.scripts.memoryHost ScriptMemory.load answers message .json = .ok out →
    trimSpace stage.script.toList = [] ∧ out.body = message ∨ trimSpace stage.script.toList ≠ [] ∧
      ∃ tree, ScriptPrints library source tree out.body answers stage ∧
        (KeepsOutside (scriptPaths (splitScriptLines stage.script)) source tree ↔
          SurvivesOutside (scriptPaths (splitScriptLines stage.script)) source)
  mask : ∀ (rule : Transform) message source out, rule.transformType = "mask" →
    library.parseJSON message = .ok (some source) →
    library.structured.transformExecute [rule] message .json = .ok out →
    ∃ tree, TransformPrints library source tree out.body [rule] ∧
      (Unchanged source tree ↔ MaskLeaves library.toNumericLibrary rule source ∧
        Value.fieldsAll Decimal.Survives source)

/-- The conditions under which stages keep what they do not edit, exactly. -/
theorem untouched_iff_survives (library : ScriptNumerics) : UntouchedWhere library where
  filter paths message source out parsed done := by
    by_cases none : paths = []
    · rw [StructuredLibrary.filterExecute, if_pos none] at done
      exact .inl ⟨none, congrArg StageOutput.body (Except.ok.inj done).symm⟩
    · obtain ⟨data, tree, decoded, encoded, printed⟩ := filterExecute_eq_ok none parsed done
      refine .inr ⟨none, tree, ⟨data, decoded, encoded, printed⟩, ?_⟩
      exact keepsOutside_iff decoded encoded fun keys outside => get_removeJSONPaths outside data
  transform rules message source out parsed done := by
    by_cases none : rules = []
    · rw [StructuredLibrary.transformExecute, if_pos none] at done
      exact .inl ⟨none, congrArg StageOutput.body (Except.ok.inj done).symm⟩
    · obtain ⟨data, edited, tree, decoded, applied, encoded, printed⟩ := transformExecute_eq_ok none parsed done
      refine .inr ⟨none, tree, ⟨data, edited, decoded, applied, encoded, printed⟩, ?_⟩
      exact keepsOutside_iff decoded encoded fun keys outside => get_applyRules (outside_inOrder outside) applied
  script stage answers message source out parsed distinct copies done := by
    by_cases blank : trimSpace stage.script.toList = []
    · rw [ScriptStage.execute, if_pos blank] at done
      exact .inl ⟨blank, congrArg StageOutput.body (Except.ok.inj done).symm⟩
    · obtain ⟨data, state, edited, tree, decoded, ran, document, kept, encoded, printed⟩ :=
        scriptExecute_eq_ok blank parsed distinct copies done
      refine .inr ⟨blank, tree, ⟨data, state, edited, decoded, ran, document, encoded, printed⟩, ?_⟩
      exact keepsOutside_iff decoded encoded kept
  mask rule message source out mask parsed done := by
    obtain ⟨data, edited, tree, decoded, applied, encoded, printed⟩ :=
      transformExecute_eq_ok (List.cons_ne_nil rule []) parsed done
    refine ⟨tree, ⟨data, edited, decoded, applied, encoded, printed⟩, ?_⟩
    exact unchanged_mask_iff mask decoded (applyRule_of_applyRules applied) encoded

/-! ### Two documents that change -/

/-- The bytes of a document with one field, a number or a text without escapes. -/
def printField : Option (DataMap Decimal) → Bytes
  | some [(name, .number literal)] =>
    ("\x7b\"" ++ name ++ "\":" ++ (if literal.negative then "-" else "") ++ toString literal.digits ++
      (if literal.power = 0 then "" else "e" ++ toString literal.power) ++ "\x7d").toList.map fun char =>
        UInt8.ofNat char.toNat
  | some [(name, .string text)] =>
    ("\x7b\"" ++ name ++ "\":\"" ++ text ++ "\"\x7d").toList.map fun char => UInt8.ofNat char.toNat
  | _ => "null".toList.map fun char => UInt8.ofNat char.toNat

/-- The letter `x` replaced in a text. -/
def replaceLetter (text replacement : String) : String :=
  String.ofList (text.toList.flatMap fun char => if char = 'x' then replacement.toList else [char])

/-- A library that reads and prints a document with one field, and matches and replaces the letter `x`. -/
def fieldLibrary (written : Bytes) (literal : Decimal) : ScriptNumerics where
  toNumericLibrary :=
    { integerLibrary written literal with
      printJSON := printField
      compileRegex := fun pattern =>
        if pattern = "x" then .ok replaceLetter else .error "error parsing regexp"
      matchString := fun pattern text => if pattern = "x" then some (text.toList.contains 'x') else none }
  add _ _ := .nan
  sub _ _ := .nan
  mul _ _ := .nan
  div _ _ := .nan

/-- A mask of the letter on the number of this document. -/
def letterMask : Transform where
  tenantID := "t"
  pipelineID := "p"
  transformType := "mask"
  sourcePath := "n"
  maskPattern := "x"
  maskReplace := "y"

/-- The text of a document with the integer that follows 2^53, as bytes. -/
def writtenLost : Bytes :=
  [123, 34, 110, 34, 58, 57, 48, 48, 55, 49, 57, 57, 50, 53, 52, 55, 52, 48, 57, 57, 51, 125]

/-- The number that this integer is rounded to. -/
def lostNumber : Finite64 where
  negative := false
  magnitude := 9007199254740992
  nonnegative := by norm_num
  held := by
    have held : binary64.Holds ((9007199254740992 : ℤ) : ℚ) := BinaryFormat.holds_intCast (by decide)
    exact_mod_cast held
  finite := by
    have large : (2 : ℚ) ^ 53 < 2 ^ 1024 := pow_lt_pow_right₀ one_lt_two (by decide)
    norm_num at large ⊢
    exact large

section Lost

variable {written : Bytes} {literal : Decimal} {number : Finite64}

theorem decode_letter
    (converted : literal.toDouble (fieldLibrary written literal).literalText = .ok (.finite number)) :
    (fieldLibrary written literal).decode [("n", .number literal)] = .ok [("n", .number (.finite number))] := by
  rw [NumericLibrary.decode, Value.convertFields, Value.convert, converted]
  rfl

theorem parsed_letter : (fieldLibrary written literal).parseJSON written = .ok (some [("n", .number literal)]) :=
  parsed_integer

theorem unmarshal_letter
    (converted : literal.toDouble (fieldLibrary written literal).literalText = .ok (.finite number)) :
    (fieldLibrary written literal).unmarshalJSON written = .ok (some [("n", .number (.finite number))]) := by
  rw [NumericLibrary.unmarshalJSON, parsed_letter]
  dsimp only
  rw [decode_letter converted]
  rfl

theorem roundTo64_lost :
    roundTo64 false (⟨false, 9007199254740993, 0⟩ : Decimal).magnitude = some lostNumber := by
  have exact : (⟨false, 9007199254740993, 0⟩ : Decimal).magnitude = 9007199254740993 := by
    norm_num [Decimal.magnitude]
  have nearest : binary64.nearest |9007199254740993| = lostNumber.magnitude := by decide +kernel
  rw [exact]
  exact roundTo64_of_nearest nearest

theorem toDouble_lost (text : Decimal → String) :
    Decimal.toDouble ⟨false, 9007199254740993, 0⟩ text = .ok (.finite lostNumber) := by
  rw [Decimal.toDouble, roundTo64_lost]

theorem toDecimal_lost : lostNumber.toDecimal = ⟨false, 9007199254740992, 0⟩ := by
  have shortest : binary64.shortest lostNumber.magnitude = (9007199254740992, 0) := by decide +kernel
  have nonzero : lostNumber.magnitude ≠ 0 := by decide
  rw [Finite64.toDecimal, if_neg nonzero, shortest]
  rfl

theorem not_survives_lost : ¬ Decimal.Survives ⟨false, 9007199254740993, 0⟩ := by
  intro survives
  have same := survives lostNumber roundTo64_lost
  rw [toDecimal_lost] at same
  norm_num [Decimal.value, Decimal.magnitude] at same

def oneField {Number : Type} (value : Value Number) : DataMap Number :=
  [("n", value)]

theorem removeJSONPaths_oneField {Number : Type} (value : Value Number) :
    removeJSONPaths (oneField value) ["m"] = oneField value := by
  have keys : keysOf "m" = ["m"] := by decide
  show deleteNestedValue "m" (oneField value) = oneField value
  rw [deleteNestedValue, keys]
  rfl

theorem outside_oneField : OutsidePaths ["m"] ["n"] := by
  have keys : keysOf "m" = ["m"] := by decide
  intro path member
  rw [List.mem_singleton.mp member, keys]
  exact apart_cons.mpr fun same => absurd same (by decide)

theorem not_keepsUntouched_filter (jsonText : Value Decimal → String) :
    ¬ KeepsUntouched (fieldLibrary writtenLost ⟨false, 9007199254740993, 0⟩) jsonText := by
  intro keeps
  have converted := toDouble_lost (fieldLibrary writtenLost ⟨false, 9007199254740993, 0⟩).literalText
  have decoded : (fieldLibrary writtenLost ⟨false, 9007199254740993, 0⟩).decode _ = _ := decode_letter converted
  have encoded : encodeNumbers
      (removeJSONPaths (oneField (.number (.finite lostNumber))) ["m"]) =
        .ok (oneField (.number lostNumber.toDecimal)) := by
    rw [removeJSONPaths_oneField]
    rfl
  have done : (fieldLibrary writtenLost ⟨false, 9007199254740993, 0⟩).structured.filterExecute ["m"] writtenLost .json =
      .ok { body := printField (some (oneField (.number lostNumber.toDecimal))), format := some .json, result := none } := by
    have unmarshal : (fieldLibrary writtenLost ⟨false, 9007199254740993, 0⟩).structured.unmarshalJSON writtenLost =
        .ok (some (oneField (.number (.finite lostNumber)))) := unmarshal_letter converted
    have marshal : (fieldLibrary writtenLost ⟨false, 9007199254740993, 0⟩).structured.marshalJSON
        (some (removeJSONPaths (oneField (.number (.finite lostNumber))) ["m"])) =
          .ok (printField (some (oneField (.number lostNumber.toDecimal)))) := by
      rw [NumericLibrary.structured_marshalJSON, NumericLibrary.marshalJSON, encoded]
      rfl
    rw [StructuredLibrary.filterExecute, if_neg (List.cons_ne_nil _ _)]
    dsimp only
    rw [unmarshal]
    dsimp only [Option.map_some]
    rw [marshal]
  have kept := keeps.filter ["m"] writtenLost (oneField (.number ⟨false, 9007199254740993, 0⟩)) _ _
    (List.cons_ne_nil _ _) parsed_letter done ⟨_, decoded, encoded, rfl⟩
  have survives := (keepsOutside_iff decoded encoded fun keys outside => get_removeJSONPaths outside _).mp kept
  exact not_survives_lost (survives ["n"] outside_oneField _ rfl)

end Lost

section Masked

theorem keysOf_oneField : keysOf "n" = ["n"] := by
  decide

theorem getNestedValue_oneField {Number : Type} (value : Value Number) :
    getNestedValue "n" (oneField value) = .ok value := by
  rw [getNestedValue, keysOf_oneField]
  rfl

theorem setNestedValue_oneField {Number : Type} (value other : Value Number) :
    setNestedValue "n" (oneField value) other = (oneField other, none) := by
  rw [setNestedValue, keysOf_oneField]
  rfl

/-- The text that the mask of the letter stores for a number. -/
def maskedText (number : Double) : String :=
  replaceLetter (formatDouble shortestPrecision number) "y"

variable {written : Bytes} {literal : Decimal} {number : Double}

theorem applyRule_letterMask : (fieldLibrary written literal).structured.applyRule (oneField (.number number))
    letterMask = .ok (oneField (.string (maskedText number))) := by
  have compiled : (fieldLibrary written literal).structured.compileRegex letterMask.maskPattern = .ok replaceLetter :=
    rfl
  have source : letterMask.sourcePath = "n" := rfl
  rw [StructuredLibrary.applyRule, if_neg (by decide), if_pos (show letterMask.transformType = "mask" from rfl), source,
    getNestedValue_oneField]
  dsimp only
  rw [compiled]
  dsimp only
  rw [StructuredLibrary.setOrFail, setNestedValue_oneField]
  rfl

theorem encode_text (text : String) :
    encodeNumbers (oneField (.string text)) = .ok (oneField (.string text)) :=
  rfl

theorem encodeStructured_text (text : String) :
    (fieldLibrary written literal).structured.encodeStructured (oneField (.string text)) .json =
      .ok (printField (some (oneField (.string text)))) :=
  rfl

theorem not_keepsUntouched_mask :
    ¬ KeepsUntouched (fieldLibrary writtenFive ⟨false, 5, 0⟩) fun _ => "5" := by
  intro keeps
  obtain ⟨number, converted, -⟩ := toDouble_of_small (fieldLibrary writtenFive ⟨false, 5, 0⟩).literalText value_five
    (by decide)
  have decoded : (fieldLibrary writtenFive ⟨false, 5, 0⟩).decode _ = _ := decode_letter converted
  have applied : (fieldLibrary writtenFive ⟨false, 5, 0⟩).structured.applyRules (oneField (.number (.finite number)))
      (inOrder [letterMask]) = .ok (oneField (.string (maskedText (.finite number)))) := by
    rw [show inOrder [letterMask] = [letterMask] from rfl, StructuredLibrary.applyRules, applyRule_letterMask]
    rfl
  have done : (fieldLibrary writtenFive ⟨false, 5, 0⟩).structured.transformExecute [letterMask] writtenFive .json =
      .ok { body := printField (some (oneField (.string (maskedText (.finite number))))), format := some .json,
            result := none } := by
    have unmarshal : (fieldLibrary writtenFive ⟨false, 5, 0⟩).structured.decodeStructured writtenFive .json =
        .ok (some (oneField (.number (.finite number)))) := by
      have read : (fieldLibrary writtenFive ⟨false, 5, 0⟩).structured.unmarshalJSON writtenFive =
          .ok (some (oneField (.number (.finite number)))) := unmarshal_letter converted
      rw [StructuredLibrary.decodeStructured, read]
    exact transformExecute_of_applied (List.cons_ne_nil _ _) unmarshal applied (encodeStructured_text _)
  have unchanged : Unchanged (oneField (.number ⟨false, 5, 0⟩)) (oneField (.string (maskedText (.finite number)))) :=
    keeps.mask letterMask writtenFive (oneField (.number ⟨false, 5, 0⟩)) _ _ _ rfl parsed_letter
      (getNestedValue_oneField _) (by decide) done ⟨_, _, decoded, applied, encode_text _, rfl⟩
  exact unchanged.2.1

/-- A filter changes a number that it does not edit, and a mask without a match the kind of one. -/
theorem untouched_values_change :
    (¬ KeepsUntouched (fieldLibrary writtenLost ⟨false, 9007199254740993, 0⟩) fun _ => "9007199254740993") ∧
      ¬ KeepsUntouched (fieldLibrary writtenFive ⟨false, 5, 0⟩) fun _ => "5" :=
  ⟨not_keepsUntouched_filter _, not_keepsUntouched_mask⟩

end Masked

end MqConnector
