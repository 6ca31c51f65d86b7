/-
This file models the structured messages of `internal/pipeline`: the values that a message is
decoded to, the walkers of `paths.go` along dot paths, and the filter and transform stages.

The decoders and encoders, patterns and the text of a number are those of a library. A map is
the list of its entries.
-/

import MqConnector.NestedMaps
import MqConnector.Stages

namespace MqConnector

open NestedMaps

/-! ### Values -/

/-- A decoded value, `any`. -/
inductive Value (Number : Type)
  | null
  | bool (value : Bool)
  | number (value : Number)
  | string (text : String)
  | array (items : List (Value Number))
  | object (fields : List (String × Value Number))

/-- A decoded message, `map[string]any`; its keys are distinct. -/
abbrev DataMap (Number : Type) := List (String × Value Number)

namespace Value

variable {Number : Type}

def fields : Value Number → Option (DataMap Number)
  | .object fields => some fields
  | _ => none

/-- Objects are the maps among the values. -/
def view (Number : Type) : View String (Value Number) where
  entries := fields
  node := .object
  entries_eq_some value listed := by cases value <;> simp [fields]

mutual

/-- `fmt.Sprintf("%v", value)`, where a number prints as this. -/
def sprintV (formatNumber : Number → String) : Value Number → String
  | .null => "<nil>"
  | .bool value => if value then "true" else "false"
  | .number value => formatNumber value
  | .string text => text
  | .array items => "[" ++ String.intercalate " " (sprintItems formatNumber items) ++ "]"
  | .object fields =>
    let sorted := (sprintFields formatNumber fields).insertionSort fun first second => first.1 ≤ second.1
    "map[" ++ String.intercalate " " (sorted.map fun field => field.1 ++ ":" ++ field.2) ++ "]"

def sprintItems (formatNumber : Number → String) : List (Value Number) → List String
  | [] => []
  | item :: items => sprintV formatNumber item :: sprintItems formatNumber items

def sprintFields (formatNumber : Number → String) : DataMap Number → List (String × String)
  | [] => []
  | (name, value) :: fields => (name, sprintV formatNumber value) :: sprintFields formatNumber fields

end

end Value

/-! ### Paths -/

/-- `strings.Split(path, ".")`. -/
def keysOf (path : String) : List String :=
  (path.toList.splitOn '.').map String.ofList

theorem keysOf_ne_nil (path : String) : keysOf path ≠ [] := by
  rw [keysOf, ne_eq, List.map_eq_nil_iff]
  exact List.splitOn_ne_nil '.' path.toList

/-- The errors of the walkers, with the path and the key that they name. -/
inductive PathError
  | notObject (path key : String)
  | missing (path key : String)
  | alreadySet (path key : String)
  deriving DecidableEq

/-- The text of an error, with the quotes of `%q`. -/
def PathError.text (quote : String → String) : PathError → String
  | .notObject path key => "path " ++ quote path ++ ": " ++ quote key ++ " is not an object"
  | .missing path key => "path " ++ quote path ++ ": key " ++ quote key ++ " missing"
  | .alreadySet path key => "path " ++ quote path ++ ": " ++ quote key ++ " already set to non-object"

section Walkers

variable {Number : Type} (path : String)

/-- The loop of `getNestedValue`. -/
def getKeys : List String → Value Number → Except PathError (Value Number)
  | [], current => .ok current
  | key :: rest, .object fields =>
    match fields.lookup key with
    | none => .error (.missing path key)
    | some value => getKeys rest value
  | key :: _, _ => .error (.notObject path key)

/-- `getNestedValue`. -/
def getNestedValue (data : DataMap Number) : Except PathError (Value Number) :=
  getKeys path (keysOf path) (.object data)

/-- The loop of `setNestedValue`: the map after it, and its error. -/
def setKeys (value : Value Number) : List String → DataMap Number → DataMap Number × Option PathError
  | [], current => (current, none)
  | [key], current => (put key value current, none)
  | key :: next :: rest, current =>
    match current.lookup key with
    | none =>
      let inner := setKeys value (next :: rest) []
      (put key (.object inner.1) current, inner.2)
    | some (.object fields) =>
      let inner := setKeys value (next :: rest) fields
      (put key (.object inner.1) current, inner.2)
    | some _ => (current, some (.alreadySet path key))

/-- `setNestedValue`. -/
def setNestedValue (data : DataMap Number) (value : Value Number) : DataMap Number × Option PathError :=
  setKeys path value (keysOf path) data

/-- The loop of `deleteNestedValue`. -/
def deleteKeys : List String → DataMap Number → DataMap Number
  | [], current => current
  | [key], current => erase key current
  | key :: next :: rest, current =>
    match current.lookup key with
    | some (.object fields) => put key (.object (deleteKeys (next :: rest) fields)) current
    | _ => current

/-- `deleteNestedValue`. -/
def deleteNestedValue (data : DataMap Number) : DataMap Number :=
  deleteKeys (keysOf path) data

end Walkers

/-- The paths are deleted one after another. -/
def removeJSONPaths {Number : Type} (data : DataMap Number) (paths : List String) : DataMap Number :=
  paths.foldl (fun data path => deleteNestedValue path data) data

/-! ### The walkers are edits of nested maps -/

section Edits

variable {Number : Type} (path : String) (data : DataMap Number) (value : Value Number)

theorem toOption_getKeys (first : String) (rest : List String) (data : DataMap Number) :
    (getKeys path (first :: rest) (.object data)).toOption = (Value.view Number).get (first :: rest) data := by
  induction rest generalizing first data with
  | nil =>
    rw [getKeys, View.get]
    cases data.lookup first with
    | none => rfl
    | some value => rfl
  | cons next rest hypothesis =>
    rw [getKeys, View.get]
    cases data.lookup first with
    | none => rfl
    | some value =>
      cases value with
      | object fields => exact hypothesis next fields
      | null | bool | number | string | array => rfl

theorem toOption_getNestedValue :
    (getNestedValue path data).toOption = (Value.view Number).get (keysOf path) data := by
  rw [getNestedValue]
  cases keys : keysOf path with
  | nil => exact absurd keys (keysOf_ne_nil path)
  | cons first rest => exact toOption_getKeys path first rest data

theorem setKeys_eq (keys : List String) (data : DataMap Number) :
    match (Value.view Number).set keys value data with
    | some edited => setKeys path value keys data = (edited, none)
    | none => ∃ error, setKeys path value keys data = (data, some error) := by
  induction keys generalizing data with
  | nil => rfl
  | cons first rest hypothesis =>
    cases rest with
    | nil => rfl
    | cons next rest =>
      rw [View.set, setKeys]
      cases found : data.lookup first with
      | none =>
        have below := hypothesis []
        obtain ⟨edited, done⟩ := (Value.view Number).set_empty (next :: rest) value
        rw [done] at below ⊢
        dsimp only [Option.map_some] at below ⊢
        rw [below]
        rfl
      | some child =>
        cases child with
        | object fields =>
          have below := hypothesis fields
          have opened : (Value.view Number).entries (.object fields) = some fields := rfl
          dsimp only
          rw [opened, Option.bind_some]
          cases done : (Value.view Number).set (next :: rest) value fields with
          | none =>
            rw [done] at below
            obtain ⟨error, below⟩ := below
            dsimp only [Option.map_none]
            rw [below]
            exact ⟨error, congrArg (·, some error) (put_of_lookup found)⟩
          | some edited =>
            rw [done] at below
            dsimp only [Option.map_some] at below ⊢
            rw [below]
            rfl
        | null | bool | number | string | array => exact ⟨_, rfl⟩

theorem setNestedValue_eq :
    match (Value.view Number).set (keysOf path) value data with
    | some edited => setNestedValue path data value = (edited, none)
    | none => ∃ error, setNestedValue path data value = (data, some error) :=
  setKeys_eq path value (keysOf path) data

theorem setNestedValue_eq_none {edited : DataMap Number} :
    setNestedValue path data value = (edited, none) ↔
      (Value.view Number).set (keysOf path) value data = some edited := by
  have done := setNestedValue_eq path data value
  cases result : (Value.view Number).set (keysOf path) value data with
  | none =>
    rw [result] at done
    obtain ⟨error, failed⟩ := done
    rw [failed]
    simp
  | some other =>
    rw [result] at done
    dsimp only at done
    rw [done]
    simp

/-- An edit that fails changes nothing. -/
theorem setNestedValue_eq_some {edited : DataMap Number} {error : PathError}
    (failed : setNestedValue path data value = (edited, some error)) : edited = data := by
  have done := setNestedValue_eq path data value
  split at done
  · rw [failed] at done
    cases done
  · obtain ⟨other, unchanged⟩ := done
    exact (Prod.mk.inj (failed.symm.trans unchanged)).1

theorem deleteKeys_eq (keys : List String) (data : DataMap Number) :
    deleteKeys keys data = (Value.view Number).delete keys data := by
  induction keys generalizing data with
  | nil => rfl
  | cons first rest hypothesis =>
    cases rest with
    | nil => rfl
    | cons next rest =>
      rw [View.delete, deleteKeys]
      cases data.lookup first with
      | none => rfl
      | some child =>
        cases child with
        | object fields =>
          exact congrArg (fun inner => put first (Value.object inner) data) (hypothesis fields)
        | null | bool | number | string | array => rfl

theorem deleteNestedValue_eq : deleteNestedValue path data = (Value.view Number).delete (keysOf path) data :=
  deleteKeys_eq (keysOf path) data

end Edits

/-! ### Decoders and encoders -/

/-- A token of an XML document, as `etree` holds it. -/
inductive XmlToken
  | element (space tag : String) (attributes : List (String × String)) (children : List XmlToken)
  | other (text : String)

/-- What the stages use of other packages. A missing map is `nil`, which `null` is decoded to. -/
structure StructuredLibrary (Number : Type) where
  unmarshalJSON : Bytes → Except String (Option (DataMap Number))
  marshalJSON : Option (DataMap Number) → Except String Bytes
  newMapXml : Bytes → Except String (DataMap Number)
  mapXml : DataMap Number → Except String Bytes
  readXml : Bytes → Except String (List XmlToken)
  writeXml : List XmlToken → Except String Bytes
  formatNumber : Number → String
  quote : String → String
  compileRegex : String → Except String (String → String → String)

namespace StructuredLibrary

variable {Number : Type} (library : StructuredLibrary Number)

/-- A message as a document. -/
def decodeStructured (message : Bytes) : Format → Except String (Option (DataMap Number))
  | .json =>
    match library.unmarshalJSON message with
    | .error err => .error ("parse json: " ++ err)
    | .ok data => .ok data
  | .xml =>
    match library.newMapXml message with
    | .error err => .error ("parse xml: " ++ err)
    | .ok data => .ok (some data)
  | _ => .ok none

/-- A document as a message. -/
def encodeStructured (data : DataMap Number) : Format → Except String Bytes
  | .json => library.marshalJSON (some data)
  | .xml => library.mapXml data
  | .protobuf => .error "cannot encode protobuf"
  | .bytes => .error "cannot encode bytes"

end StructuredLibrary

/-! ### The filter stage -/

namespace XmlToken

/-- The namespace of an element. -/
def space : XmlToken → String
  | .element space _ _ _ => space
  | .other _ => ""

/-- Whether a token is an element of this name. -/
def named (namespaceName tag : String) : XmlToken → Bool
  | .element space name _ _ => space = namespaceName ∧ name = tag
  | .other _ => false

mutual

/-- `removeXMLElements`: an element without those of a tag below it. -/
def removeXMLElements (namespaceName tag : String) : XmlToken → XmlToken
  | .element space name attributes children =>
    .element space name attributes (removeChildren namespaceName tag children)
  | .other text => .other text

def removeChildren (namespaceName tag : String) : List XmlToken → List XmlToken
  | [] => []
  | child :: rest =>
    if child.named namespaceName tag then removeChildren namespaceName tag rest
    else removeXMLElements namespaceName tag child :: removeChildren namespaceName tag rest

end

/-- The document with its root changed, the first element. -/
def mapRoot (change : XmlToken → XmlToken) : List XmlToken → Option (List XmlToken)
  | [] => none
  | .other text :: rest => (mapRoot change rest).map (.other text :: ·)
  | root :: rest => some (change root :: rest)

end XmlToken

namespace StructuredLibrary

variable {Number : Type} (library : StructuredLibrary Number)

/-- `FilterStage.Execute`. -/
def filterExecute (paths : List String) (message : Bytes) (format : Format) : Except String StageOutput :=
  let unchanged : StageOutput := { body := message, format := some format, result := none }
  if paths = [] then .ok unchanged
  else
    match format with
    | .json =>
      match library.unmarshalJSON message with
      | .error err => .error ("filter: parse json: " ++ err)
      | .ok data =>
        -- to delete from a nil map does nothing
        match library.marshalJSON (data.map (removeJSONPaths · paths)) with
        | .error err => .error ("filter: marshal json: " ++ err)
        | .ok out => .ok { unchanged with body := out }
    | .xml =>
      match library.readXml message with
      | .error err => .error ("filter: parse xml: " ++ err)
      | .ok doc =>
        match XmlToken.mapRoot (fun root =>
          paths.foldl (fun elem path => elem.removeXMLElements root.space path) root) doc with
        | none => .ok unchanged
        | some doc =>
          match library.writeXml doc with
          | .error err => .error ("filter: write xml: " ++ err)
          | .ok out => .ok { unchanged with body := out }
    | _ => .ok unchanged

/-! ### The transform stage -/

/-- `setNestedValue` as the last call of a rule. -/
def setOrFail (path : String) (data : DataMap Number) (value : Value Number) : Except String (DataMap Number) :=
  match setNestedValue path data value with
  | (edited, none) => .ok edited
  | (_, some error) => .error (error.text library.quote)

/-- `applyRule`: the map after it, or the error of the stage. -/
def applyRule (data : DataMap Number) (rule : Transform) : Except String (DataMap Number) :=
  if rule.transformType = "rename" ∨ rule.transformType = "move" then
    match getNestedValue rule.sourcePath data with
    | .error _ => .ok data
    | .ok value => library.setOrFail rule.targetPath (deleteNestedValue rule.sourcePath data) value
  else if rule.transformType = "mask" then
    match getNestedValue rule.sourcePath data with
    | .error _ => .ok data
    | .ok value =>
      match library.compileRegex rule.maskPattern with
      | .error err => .error ("invalid mask pattern: " ++ err)
      | .ok replaceAllString =>
        library.setOrFail rule.sourcePath data
          (.string (replaceAllString (value.sprintV library.formatNumber) rule.maskReplace))
  else if rule.transformType = "set" then
    library.setOrFail rule.sourcePath data (.string rule.setValue)
  else if rule.transformType = "delete" then .ok (deleteNestedValue rule.sourcePath data)
  else .error ("unknown transform type " ++ library.quote rule.transformType)

/-- The loop of `TransformStage.Execute`. -/
def applyRules (data : DataMap Number) : List Transform → Except String (DataMap Number)
  | [] => .ok data
  | rule :: rules =>
    match library.applyRule data rule with
    | .error err => .error ("transform " ++ rule.transformType ++ " on " ++ rule.sourcePath ++ ": " ++ err)
    | .ok data => applyRules data rules

/-- `TransformStage.Execute`. -/
def transformExecute (rules : List Transform) (message : Bytes) (format : Format) : Except String StageOutput :=
  let unchanged : StageOutput := { body := message, format := some format, result := none }
  if rules = [] then .ok unchanged
  else
    match library.decodeStructured message format with
    | .error err => .error ("transform: " ++ err)
    | .ok none => .ok unchanged
    | .ok (some data) =>
      match library.applyRules data (rules.insertionSort fun first second => first.order ≤ second.order) with
      | .error err => .error err
      | .ok data =>
        match library.encodeStructured data format with
        | .error err => .error ("transform: " ++ err)
        | .ok out => .ok { unchanged with body := out }

end StructuredLibrary

end MqConnector
