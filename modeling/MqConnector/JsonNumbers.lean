/-
This file models the numbers of JSON messages: how `encoding/json` decodes them to `float64` and
encodes them again around the stages that work on decoded messages.

A message is read to a document whose numbers are decimals, and a number is rounded when it is
decoded; one that is out of range fails the message. A number is encoded as the shortest decimal
that is read as it.
-/

import MqConnector.Doubles
import MqConnector.Routing

namespace MqConnector

open BinaryNumbers

/-! ### Documents with other numbers -/

namespace Value

variable {Former Latter : Type}

mutual

/-- A value with its numbers converted; the first that cannot be fails the value. -/
def convert (change : Former → Except String Latter) : Value Former → Except String (Value Latter)
  | .null => .ok .null
  | .bool value => .ok (.bool value)
  | .number value => (change value).map .number
  | .string text => .ok (.string text)
  | .array items => (convertItems change items).map .array
  | .object fields => (convertFields change fields).map .object

def convertItems (change : Former → Except String Latter) : List (Value Former) → Except String (List (Value Latter))
  | [] => .ok []
  | item :: items =>
    match convert change item, convertItems change items with
    | .ok item, .ok items => .ok (item :: items)
    | .error err, _ | _, .error err => .error err

def convertFields (change : Former → Except String Latter) : DataMap Former → Except String (DataMap Latter)
  | [] => .ok []
  | (name, value) :: fields =>
    match convert change value, convertFields change fields with
    | .ok value, .ok fields => .ok ((name, value) :: fields)
    | .error err, _ | _, .error err => .error err

end

mutual

/-- Two values are the same but for their numbers, which are so related. -/
def Rel (related : Former → Latter → Prop) : Value Former → Value Latter → Prop
  | .null, .null => True
  | .bool value, .bool other => value = other
  | .number value, .number other => related value other
  | .string text, .string other => text = other
  | .array items, .array others => itemsRel related items others
  | .object fields, .object others => fieldsRel related fields others
  | _, _ => False

def itemsRel (related : Former → Latter → Prop) : List (Value Former) → List (Value Latter) → Prop
  | [], [] => True
  | item :: items, other :: others => item.Rel related other ∧ itemsRel related items others
  | _, _ => False

def fieldsRel (related : Former → Latter → Prop) : DataMap Former → DataMap Latter → Prop
  | [], [] => True
  | (name, value) :: fields, (called, other) :: others =>
    name = called ∧ value.Rel related other ∧ fieldsRel related fields others
  | _, _ => False

end

mutual

/-- A condition on all numbers of a value. -/
def All (condition : Former → Prop) : Value Former → Prop
  | .number value => condition value
  | .array items => itemsAll condition items
  | .object fields => fieldsAll condition fields
  | _ => True

def itemsAll (condition : Former → Prop) : List (Value Former) → Prop
  | [] => True
  | item :: items => item.All condition ∧ itemsAll condition items

def fieldsAll (condition : Former → Prop) : DataMap Former → Prop
  | [] => True
  | (_, value) :: fields => value.All condition ∧ fieldsAll condition fields

end

section Convert

variable {change : Former → Except String Latter}

mutual

theorem rel_of_convert : ∀ {value : Value Former} {other : Value Latter}, convert change value = .ok other →
    value.Rel (fun held read => change held = .ok read) other
  | .null, _, converted => by
    obtain rfl := Except.ok.inj converted
    exact trivial
  | .bool _, _, converted => by
    obtain rfl := Except.ok.inj converted
    exact rfl
  | .string _, _, converted => by
    obtain rfl := Except.ok.inj converted
    exact rfl
  | .number held, _, converted => by
    rw [convert] at converted
    cases done : change held with
    | error err => rw [done] at converted; cases converted
    | ok read =>
      rw [done] at converted
      obtain rfl := Except.ok.inj converted
      exact done
  | .array items, _, converted => by
    rw [convert] at converted
    cases done : convertItems change items with
    | error err => rw [done] at converted; cases converted
    | ok others =>
      rw [done] at converted
      obtain rfl := Except.ok.inj converted
      exact itemsRel_of_convert done
  | .object fields, _, converted => by
    rw [convert] at converted
    cases done : convertFields change fields with
    | error err => rw [done] at converted; cases converted
    | ok others =>
      rw [done] at converted
      obtain rfl := Except.ok.inj converted
      exact fieldsRel_of_convert done

theorem itemsRel_of_convert : ∀ {items : List (Value Former)} {others : List (Value Latter)},
    convertItems change items = .ok others → itemsRel (fun held read => change held = .ok read) items others
  | [], _, converted => by
    obtain rfl := Except.ok.inj converted
    exact trivial
  | item :: items, _, converted => by
    rw [convertItems] at converted
    split at converted
    case h_1 first rest done more =>
      obtain rfl := Except.ok.inj converted
      exact ⟨rel_of_convert done, itemsRel_of_convert more⟩
    case h_2 => cases converted
    case h_3 => cases converted

theorem fieldsRel_of_convert : ∀ {fields : DataMap Former} {others : DataMap Latter},
    convertFields change fields = .ok others → fieldsRel (fun held read => change held = .ok read) fields others
  | [], _, converted => by
    obtain rfl := Except.ok.inj converted
    exact trivial
  | (name, value) :: fields, _, converted => by
    rw [convertFields] at converted
    split at converted
    case h_1 first rest done more =>
      obtain rfl := Except.ok.inj converted
      exact ⟨rfl, rel_of_convert done, fieldsRel_of_convert more⟩
    case h_2 => cases converted
    case h_3 => cases converted

end

end Convert

section Walks

variable {related : Former → Latter → Prop}

theorem lookup_of_fieldsRel {fields : DataMap Former} {others : DataMap Latter}
    (alike : fieldsRel related fields others) (key : String) :
    Option.Rel (Rel related) (fields.lookup key) (others.lookup key) := by
  induction fields generalizing others with
  | nil =>
    cases others with
    | nil => exact .none
    | cons => exact alike.elim
  | cons entry fields hypothesis =>
    cases others with
    | nil => exact alike.elim
    | cons other others =>
      obtain ⟨name, value⟩ := entry
      obtain ⟨called, held⟩ := other
      obtain ⟨rfl, first, rest⟩ := alike
      rw [NestedMaps.lookup_cons, NestedMaps.lookup_cons]
      split
      · exact .some first
      · exact hypothesis rest

theorem get_of_fieldsRel (keys : List String) {fields : DataMap Former} {others : DataMap Latter}
    (alike : fieldsRel related fields others) :
    Option.Rel (Rel related) ((view Former).get keys fields) ((view Latter).get keys others) := by
  induction keys generalizing fields others with
  | nil => exact .none
  | cons key rest hypothesis =>
    have here := lookup_of_fieldsRel alike key
    by_cases last : rest = []
    · subst last
      exact here
    · rw [NestedMaps.View.get_cons last, NestedMaps.View.get_cons last]
      generalize fields.lookup key = value at here
      generalize others.lookup key = other at here
      cases here with
      | none => exact .none
      | @some value other both =>
        cases value with
        | object fields =>
          cases other with
          | object others => exact hypothesis both
          | null | bool | number | string | array => exact both.elim
        | null | bool | number | string | array =>
          cases other with
          | null | bool | number | string | array => exact .none
          | object others => exact both.elim

/-- Related documents have related values at every path. -/
theorem getNestedValue_of_fieldsRel (path : String) {data : DataMap Former} {others : DataMap Latter}
    (alike : fieldsRel related data others) :
    Option.Rel (Rel related) (getNestedValue path data).toOption (getNestedValue path others).toOption := by
  rw [toOption_getNestedValue, toOption_getNestedValue]
  exact get_of_fieldsRel (keysOf path) alike

end Walks

section Twice

variable {Middle : Type} {first : Former → Middle → Prop} {second : Middle → Latter → Prop}
  {related : Former → Latter → Prop} {condition : Former → Prop}

mutual

theorem rel_iff_all (exact : ∀ held middle read, first held middle → second middle read →
      (related held read ↔ condition held)) :
    ∀ {value : Value Former} {middle : Value Middle} {other : Value Latter}, value.Rel first middle →
      middle.Rel second other → (value.Rel related other ↔ value.All condition)
  | .null, .null, .null, _, _ => Iff.rfl
  | .bool _, .bool _, .bool _, before, after => iff_of_true (before.trans after) trivial
  | .string _, .string _, .string _, before, after => iff_of_true (before.trans after) trivial
  | .number held, .number middle, .number read, before, after => exact held middle read before after
  | .array _, .array _, .array _, before, after => itemsRel_iff_all exact before after
  | .object _, .object _, .object _, before, after => fieldsRel_iff_all exact before after

theorem itemsRel_iff_all (exact : ∀ held middle read, first held middle → second middle read →
      (related held read ↔ condition held)) :
    ∀ {items : List (Value Former)} {middles : List (Value Middle)} {others : List (Value Latter)},
      itemsRel first items middles → itemsRel second middles others →
      (itemsRel related items others ↔ itemsAll condition items)
  | [], [], [], _, _ => Iff.rfl
  | _ :: _, _ :: _, _ :: _, before, after =>
    and_congr (rel_iff_all exact before.1 after.1) (itemsRel_iff_all exact before.2 after.2)

theorem fieldsRel_iff_all (exact : ∀ held middle read, first held middle → second middle read →
      (related held read ↔ condition held)) :
    ∀ {fields : DataMap Former} {middles : DataMap Middle} {others : DataMap Latter},
      fieldsRel first fields middles → fieldsRel second middles others →
      (fieldsRel related fields others ↔ fieldsAll condition fields)
  | [], [], [], _, _ => Iff.rfl
  | (_, _) :: _, (_, _) :: _, (_, _) :: _, before, after => by
    have both := and_congr (rel_iff_all exact before.2.1 after.2.1) (fieldsRel_iff_all exact before.2.2 after.2.2)
    exact ⟨fun same => both.mp same.2, fun meet => ⟨before.1.trans after.1, both.mpr meet⟩⟩

end

end Twice

end Value

/-! ### Decimals -/

/-- A number of a JSON text: its sign, its digits and their power of ten. -/
structure Decimal where
  negative : Bool
  digits : Nat
  power : ℤ
  deriving DecidableEq

namespace Decimal

variable (literal : Decimal)

def magnitude : ℚ :=
  literal.digits * 10 ^ literal.power

def value : ℚ :=
  if literal.negative then -literal.magnitude else literal.magnitude

/-- `convertNumber` of `encoding/json`; the text of the number is that of its error. -/
def toDouble (text : Decimal → String) : Except String Double :=
  match roundTo64 literal.negative literal.magnitude with
  | some number => .ok (.finite number)
  | none => .error ("json: cannot unmarshal number " ++ text literal ++ " into Go value of type float64")

theorem magnitude_nonneg : 0 ≤ literal.magnitude :=
  mul_nonneg (Nat.cast_nonneg _) (BinaryFormat.ten_zpow_pos _).le

end Decimal

/-- The shortest decimal of a number, with its sign. -/
def Finite64.toDecimal (number : Finite64) : Decimal :=
  if number.magnitude = 0 then { negative := number.negative, digits := 0, power := 0 }
  else
    { negative := number.negative
      digits := (binary64.shortest number.magnitude).1.toNat
      power := (binary64.shortest number.magnitude).2 }

/-- `floatEncoder` of `encoding/json`. -/
def Double.toDecimal (exponentFrom : Nat) : Double → Except String Decimal
  | .finite number => .ok number.toDecimal
  | other => .error ("json: unsupported value: " ++ formatDouble exponentFrom other)

/-- The numbers of a document are encoded. -/
def encodeNumbers (data : DataMap Double) : Except String (DataMap Decimal) :=
  Value.convertFields (fun number => number.toDecimal shortestPrecision) data

/-! ### The packages of the stages -/

/-- What the stages use of other packages, apart from numbers: the syntax of JSON and of XML, quoting and
regular expressions. -/
structure NumericLibrary where
  parseJSON : Bytes → Except String (Option (DataMap Decimal))
  printJSON : Option (DataMap Decimal) → Bytes
  literalText : Decimal → String
  newMapXml : Bytes → Except String (DataMap Double)
  mapXml : DataMap Double → Except String Bytes
  readXml : Bytes → Except String (List XmlToken)
  writeXml : List XmlToken → Except String Bytes
  quote : String → String
  compileRegex : String → Except String (String → String → String)
  matchString : String → String → Option Bool

namespace NumericLibrary

variable (library : NumericLibrary)

/-- The numbers of a document are decoded. -/
def decode (data : DataMap Decimal) : Except String (DataMap Double) :=
  Value.convertFields (fun literal => literal.toDouble library.literalText) data

/-- `json.Unmarshal` to a map. -/
def unmarshalJSON (message : Bytes) : Except String (Option (DataMap Double)) :=
  match library.parseJSON message with
  | .error err => .error err
  | .ok none => .ok none
  | .ok (some data) => (library.decode data).map some

/-- `json.Marshal` of a map. -/
def marshalJSON : Option (DataMap Double) → Except String Bytes
  | none => .ok (library.printJSON none)
  | some data => (encodeNumbers data).map fun data => library.printJSON (some data)

/-- The packages of the filter and transform stages. -/
def structured : StructuredLibrary Double where
  unmarshalJSON := library.unmarshalJSON
  marshalJSON := library.marshalJSON
  newMapXml := library.newMapXml
  mapXml := library.mapXml
  readXml := library.readXml
  writeXml := library.writeXml
  formatNumber := formatDouble shortestPrecision
  quote := library.quote
  compileRegex := library.compileRegex

theorem structured_marshalJSON : library.structured.marshalJSON = library.marshalJSON :=
  rfl

/-- The packages of the conditions of the route stage. -/
def conditions : ConditionLibrary Double where
  toStructuredLibrary := library.structured
  parseFloat := parseDouble
  less := Double.less
  matchString := library.matchString

end NumericLibrary

end MqConnector
