/-
This file asks whether edits along dot paths obey the laws of a lens, and what follows for
the filter and transform stages.

They do, as edits of nested maps: what was set is read back, a failing set has changed
nothing, and edits do not see each other along paths of which neither continues the other.
-/

import MqConnector.Documents

namespace MqConnector

open NestedMaps

/-! ### Walkers -/

section Walkers

variable {Number : Type} {path other : String} {data edited : DataMap Number} {value : Value Number}

theorem getNestedValue_eq_ok : getNestedValue path data = .ok value ↔
    (Value.view Number).get (keysOf path) data = some value := by
  rw [← toOption_getNestedValue]
  cases getNestedValue path data with
  | error => simp [Except.toOption]
  | ok => simp [Except.toOption]

/-- What was set is found. -/
theorem getNestedValue_setNestedValue (done : setNestedValue path data value = (edited, none)) :
    getNestedValue path edited = .ok value :=
  getNestedValue_eq_ok.mpr (View.get_set (keysOf_ne_nil path) ((setNestedValue_eq_none path data value).mp done))

/-- A path apart keeps its value. -/
theorem getNestedValue_set_of_apart (apart : Apart (keysOf path) (keysOf other)) (value : Value Number) :
    (getNestedValue other (setNestedValue path data value).1).toOption = (getNestedValue other data).toOption := by
  rcases done : setNestedValue path data value with ⟨edited, _ | error⟩
  · rw [toOption_getNestedValue, toOption_getNestedValue]
    exact View.get_set_of_apart apart ((setNestedValue_eq_none path data value).mp done)
  · rw [setNestedValue_eq_some path data value done]

/-- A deletion keeps the values of paths apart. -/
theorem getNestedValue_delete_of_apart (apart : Apart (keysOf path) (keysOf other)) (data : DataMap Number) :
    (getNestedValue other (deleteNestedValue path data)).toOption = (getNestedValue other data).toOption := by
  rw [toOption_getNestedValue, toOption_getNestedValue, deleteNestedValue_eq]
  exact View.get_delete_of_apart apart

theorem getNestedValue_delete (path : String) (data : DataMap Number) :
    (getNestedValue path (deleteNestedValue path data)).toOption = none := by
  rw [toOption_getNestedValue, deleteNestedValue_eq]
  exact View.get_delete (keysOf_ne_nil path)

/-- Deletions may be swapped. -/
theorem deleteNestedValue_comm (path other : String) (data : DataMap Number) :
    deleteNestedValue path (deleteNestedValue other data) =
      deleteNestedValue other (deleteNestedValue path data) := by
  simp only [deleteNestedValue_eq]
  exact (Value.view Number).delete_comm (keysOf path) (keysOf other) data

theorem deleteNestedValue_self (path : String) (data : DataMap Number) :
    deleteNestedValue path (deleteNestedValue path data) = deleteNestedValue path data := by
  simp only [deleteNestedValue_eq]
  exact (Value.view Number).delete_delete_self (keysOf path) data

end Walkers

/-! ### Filters -/

section Filters

variable {Number : Type} {paths others : List String}

theorem removeJSONPaths_congr (same : ∀ path, path ∈ paths ↔ path ∈ others) (data : DataMap Number) :
    removeJSONPaths data paths = removeJSONPaths data others :=
  have : RightCommutative fun (data : DataMap Number) path => deleteNestedValue path data :=
    ⟨fun data path other => deleteNestedValue_comm other path data⟩
  foldl_congr_mem (fun data path => deleteNestedValue_self path data) same data

open XmlToken

@[simp]
theorem named_removeXMLElements (namespaceName tag spaceName name : String) (token : XmlToken) :
    (token.removeXMLElements namespaceName tag).named spaceName name = token.named spaceName name := by
  cases token <;> rfl

theorem removeChildren_cons (namespaceName tag : String) (child : XmlToken) (rest : List XmlToken) :
    removeChildren namespaceName tag (child :: rest) =
      if child.named namespaceName tag then removeChildren namespaceName tag rest
      else child.removeXMLElements namespaceName tag :: removeChildren namespaceName tag rest :=
  rfl

mutual

theorem removeXMLElements_comm (namespaceName tag other : String) : ∀ token : XmlToken,
    (token.removeXMLElements namespaceName other).removeXMLElements namespaceName tag =
      (token.removeXMLElements namespaceName tag).removeXMLElements namespaceName other
  | .element space name attributes children =>
    congrArg (XmlToken.element space name attributes) (removeChildren_comm namespaceName tag other children)
  | .other _ => rfl

theorem removeChildren_comm (namespaceName tag other : String) : ∀ children : List XmlToken,
    removeChildren namespaceName tag (removeChildren namespaceName other children) =
      removeChildren namespaceName other (removeChildren namespaceName tag children)
  | [] => rfl
  | child :: rest => by
    have further := removeChildren_comm namespaceName tag other rest
    have below := removeXMLElements_comm namespaceName tag other child
    rw [removeChildren_cons, removeChildren_cons]
    by_cases first : child.named namespaceName tag
    · by_cases second : child.named namespaceName other
      · rw [if_pos first, if_pos second, further]
      · rw [if_pos first, if_neg second, removeChildren_cons, named_removeXMLElements, if_pos first, further]
    · by_cases second : child.named namespaceName other
      · rw [if_neg first, if_pos second, removeChildren_cons, named_removeXMLElements, if_pos second, further]
      · rw [if_neg first, if_neg second, removeChildren_cons, removeChildren_cons, named_removeXMLElements,
          named_removeXMLElements, if_neg first, if_neg second, further, below]

end

mutual

theorem removeXMLElements_self (namespaceName tag : String) : ∀ token : XmlToken,
    (token.removeXMLElements namespaceName tag).removeXMLElements namespaceName tag =
      token.removeXMLElements namespaceName tag
  | .element space name attributes children =>
    congrArg (XmlToken.element space name attributes) (removeChildren_self namespaceName tag children)
  | .other _ => rfl

theorem removeChildren_self (namespaceName tag : String) : ∀ children : List XmlToken,
    removeChildren namespaceName tag (removeChildren namespaceName tag children) =
      removeChildren namespaceName tag children
  | [] => rfl
  | child :: rest => by
    have further := removeChildren_self namespaceName tag rest
    rw [removeChildren_cons]
    split
    case isTrue => exact further
    case isFalse kept =>
      rw [removeChildren_cons, named_removeXMLElements, if_neg kept, further,
        removeXMLElements_self namespaceName tag child]

end

theorem foldl_removeXMLElements_congr (same : ∀ path, path ∈ paths ↔ path ∈ others) (namespaceName : String)
    (root : XmlToken) :
    paths.foldl (fun elem path => elem.removeXMLElements namespaceName path) root =
      others.foldl (fun elem path => elem.removeXMLElements namespaceName path) root :=
  have : RightCommutative fun (elem : XmlToken) path => elem.removeXMLElements namespaceName path :=
    ⟨fun elem path other => removeXMLElements_comm namespaceName other path elem⟩
  foldl_congr_mem (fun elem path => removeXMLElements_self namespaceName path elem) same root

/-- A filter depends on the set of its paths only. -/
theorem filterExecute_congr (library : StructuredLibrary Number)
    (same : ∀ path, path ∈ paths ↔ path ∈ others) :
    library.filterExecute paths = library.filterExecute others := by
  have empty : paths = [] ↔ others = [] := by
    rw [List.eq_nil_iff_forall_not_mem, List.eq_nil_iff_forall_not_mem]
    exact forall_congr' fun path => not_congr (same path)
  have json : (fun data : DataMap Number => removeJSONPaths data paths) = fun data => removeJSONPaths data others :=
    funext (removeJSONPaths_congr same)
  have xml : (fun root : XmlToken => paths.foldl (fun elem path => elem.removeXMLElements root.space path) root) =
      fun root => others.foldl (fun elem path => elem.removeXMLElements root.space path) root :=
    funext fun root => foldl_removeXMLElements_congr same root.space root
  funext message format
  simp only [StructuredLibrary.filterExecute, empty, json, xml]

end Filters

/-! ### Renames -/

section Renames

variable {Number : Type} {library : StructuredLibrary Number} {rule : Transform} {data : DataMap Number}
  (moves : rule.transformType = "rename" ∨ rule.transformType = "move")
include moves

/-- A rename without a source does nothing. -/
theorem applyRule_of_missing {error : PathError}
    (missing : getNestedValue rule.sourcePath data = .error error) :
    library.applyRule data rule = .ok data := by
  rw [StructuredLibrary.applyRule, if_pos moves, missing]

/-- A rename moves the value and keeps the paths apart. -/
theorem applyRule_moves {value : Value Number}
    (apart : Apart (keysOf rule.sourcePath) (keysOf rule.targetPath))
    (found : getNestedValue rule.sourcePath data = .ok value)
    (settable : ∃ edited, setNestedValue rule.targetPath data value = (edited, none)) :
    ∃ moved, library.applyRule data rule = .ok moved ∧ getNestedValue rule.targetPath moved = .ok value ∧
      (getNestedValue rule.sourcePath moved).toOption = none ∧
      ∀ other, Apart (keysOf rule.sourcePath) (keysOf other) → Apart (keysOf rule.targetPath) (keysOf other) →
        (getNestedValue other moved).toOption = (getNestedValue other data).toOption := by
  obtain ⟨edited, done⟩ := settable
  rw [setNestedValue_eq_none] at done
  obtain ⟨moved, done⟩ := View.set_delete_of_apart apart done
  rw [← deleteNestedValue_eq, ← setNestedValue_eq_none] at done
  have same (other : String) (beside : Apart (keysOf rule.targetPath) (keysOf other)) :
      (getNestedValue other moved).toOption =
        (getNestedValue other (deleteNestedValue rule.sourcePath data)).toOption := by
    have seen : (getNestedValue other
        (setNestedValue rule.targetPath (deleteNestedValue rule.sourcePath data) value).1).toOption = _ :=
      getNestedValue_set_of_apart beside value
    rw [done] at seen
    exact seen
  refine ⟨moved, ?_, getNestedValue_setNestedValue done, ?_, fun other first second => ?_⟩
  · rw [StructuredLibrary.applyRule, if_pos moves, found]
    dsimp only
    rw [StructuredLibrary.setOrFail, done]
  · rw [same _ apart.symm, getNestedValue_delete]
  · rw [same other second, getNestedValue_delete_of_apart first]

end Renames

/-! ### The laws -/

/-- The laws of the path edits. What is set is got, an edit that fails changes nothing, a path apart from the edited one
keeps its value, deletions may be repeated and swapped, and a rename moves the value. A path that is read yields its
value or none. -/
structure LawfulEdits {Number : Type} (library : StructuredLibrary Number) : Prop where
  got : ∀ path (data edited : DataMap Number) value, setNestedValue path data value = (edited, none) →
    getNestedValue path edited = .ok value
  failed : ∀ path (data edited : DataMap Number) value error,
    setNestedValue path data value = (edited, some error) → edited = data
  set : ∀ path other (data : DataMap Number) value, Apart (keysOf path) (keysOf other) →
    (getNestedValue other (setNestedValue path data value).1).toOption = (getNestedValue other data).toOption
  delete : ∀ path other (data : DataMap Number), Apart (keysOf path) (keysOf other) →
    (getNestedValue other (deleteNestedValue path data)).toOption = (getNestedValue other data).toOption
  again : ∀ path (data : DataMap Number),
    deleteNestedValue path (deleteNestedValue path data) = deleteNestedValue path data
  comm : ∀ path other (data : DataMap Number),
    deleteNestedValue path (deleteNestedValue other data) = deleteNestedValue other (deleteNestedValue path data)
  filter : ∀ paths others, (∀ path, path ∈ paths ↔ path ∈ others) →
    library.filterExecute paths = library.filterExecute others
  moved : ∀ (rule : Transform) data value, rule.transformType = "rename" ∨ rule.transformType = "move" →
    Apart (keysOf rule.sourcePath) (keysOf rule.targetPath) → getNestedValue rule.sourcePath data = .ok value →
    (∃ edited, setNestedValue rule.targetPath data value = (edited, none)) →
    ∃ moved, library.applyRule data rule = .ok moved ∧ getNestedValue rule.targetPath moved = .ok value ∧
      (getNestedValue rule.sourcePath moved).toOption = none ∧
      ∀ other, Apart (keysOf rule.sourcePath) (keysOf other) → Apart (keysOf rule.targetPath) (keysOf other) →
        (getNestedValue other moved).toOption = (getNestedValue other data).toOption
  missing : ∀ (rule : Transform) data error, rule.transformType = "rename" ∨ rule.transformType = "move" →
    getNestedValue rule.sourcePath data = .error error → library.applyRule data rule = .ok data

/-- Path edits obey the laws, whatever the library is. -/
theorem lawful_edits {Number : Type} (library : StructuredLibrary Number) : LawfulEdits library where
  got _ _ _ _ := getNestedValue_setNestedValue
  failed path data _ value _ := setNestedValue_eq_some path data value
  set _ _ _ value apart := getNestedValue_set_of_apart apart value
  delete _ _ data apart := getNestedValue_delete_of_apart apart data
  again := deleteNestedValue_self
  comm := deleteNestedValue_comm
  filter _ _ := filterExecute_congr library
  moved _ _ _ moves := applyRule_moves moves
  missing _ _ _ moves := applyRule_of_missing moves

end MqConnector
