/-
This file models what a script really works on: maps that are shared.

A decoded message is a Go map, and a value that is a map is a reference to it. An assignment
of such a value stores the reference. The document is loaded to a memory of shared maps, the
walkers of `paths.go` go along references, and a text or an XML encoding of a map that
contains itself never ends.
-/

import MqConnector.Scripts
import MqConnector.SharedEdits

namespace MqConnector

open NestedMaps SharedMaps ScriptHost
open FlatExpressions (Operation operations)

/-! ### Documents in memory -/

section Loading

variable {Number : Type}

mutual

/-- The keys of a map are distinct, and those of the maps in it. -/
def Value.Distinct : Value Number → Prop
  | .object fields => (fields.map Prod.fst).Nodup ∧ distinctFields fields
  | _ => True

def distinctFields : List (String × Value Number) → Prop
  | [] => True
  | (_, value) :: fields => value.Distinct ∧ distinctFields fields

end

/-- The map that entries are stored in, one after another. -/
def storedEntries (entries : List (String × Cell (Leaf Number))) : List (String × Cell (Leaf Number)) :=
  entries.foldl (fun stored entry => put entry.1 entry.2 stored) []

theorem nodup_storedEntries (entries : List (String × Cell (Leaf Number))) :
    ((storedEntries entries).map Prod.fst).Nodup := by
  have kept (entries stored : List (String × Cell (Leaf Number))) (distinct : (stored.map Prod.fst).Nodup) :
      ((entries.foldl (fun stored entry => put entry.1 entry.2 stored) stored).map Prod.fst).Nodup := by
    induction entries generalizing stored with
    | nil => exact distinct
    | cons entry rest hypothesis => exact hypothesis _ (nodup_put entry.1 entry.2 stored distinct)
  exact kept entries [] List.nodup_nil

mutual

/-- A decoded value in memory: maps are made for its objects. -/
def loadValue (memory : Memory String (Leaf Number)) : Value Number → Memory String (Leaf Number) × Cell (Leaf Number)
  | .null => (memory, .leaf .null)
  | .bool value => (memory, .leaf (.bool value))
  | .number value => (memory, .leaf (.number value))
  | .string text => (memory, .leaf (.string text))
  | .array items => (memory, .leaf (.array items))
  | .object fields =>
    let loaded := loadFields memory fields
    (loaded.1.add (storedEntries loaded.2) (nodup_storedEntries loaded.2), .map loaded.1.maps.length)

def loadFields (memory : Memory String (Leaf Number)) :
    List (String × Value Number) → Memory String (Leaf Number) × List (String × Cell (Leaf Number))
  | [] => (memory, [])
  | (key, value) :: fields =>
    let first := loadValue memory value
    let others := loadFields first.1 fields
    (others.1, (key, first.2) :: others.2)

end

/-- The memory of a script, and the map in it that is the document. -/
structure ScriptMemory (Number : Type) where
  memory : Memory String (Leaf Number)
  root : Nat

/-- The decoded document in a memory of its own. -/
def ScriptMemory.load (data : DataMap Number) : ScriptMemory Number :=
  let loaded := loadFields { maps := [], distinct := fun _ member => absurd member List.not_mem_nil } data
  { memory := loaded.1.add (storedEntries loaded.2) (nodup_storedEntries loaded.2), root := loaded.1.maps.length }

/-- The value that a cell stands for. -/
def ScriptMemory.read (state : ScriptMemory Number) (cell : Cell (Leaf Number)) : Option (Value Number) :=
  state.memory.read (Value.view Number) Leaf.value cell

/-- The document, if it is a finite tree. -/
def ScriptMemory.document (state : ScriptMemory Number) : Option (DataMap Number) :=
  (state.read (.map state.root)).bind Value.fields

end Loading

/-! ### The walkers -/

section Walkers

variable {Number : Type} (path : String)

/-- The loop of `setNestedValue` in memory. -/
def setCells (held : Cell (Leaf Number)) :
    List String → Nat → Memory String (Leaf Number) → Memory String (Leaf Number) × Option PathError
  | [], _, memory => (memory, none)
  | [key], address, memory => (memory.modify address (put key held) (nodup_put key held), none)
  | key :: next :: rest, address, memory =>
    match (memory.entriesAt address).lookup key with
    | none => setCells held (next :: rest) memory.maps.length (memory.link address key)
    | some (.map child) => setCells held (next :: rest) child memory
    | some (.leaf _) => (memory, some (.alreadySet path key))

namespace ScriptMemory

variable (state : ScriptMemory Number)

/-- `getNestedValue` in memory, without its errors, which scripts drop. -/
def getNestedValue : Option (Cell (Leaf Number)) :=
  state.memory.follow (keysOf path) (.map state.root)

/-- An assignment stores the cell, not a copy. -/
def setNestedValue (held : Cell (Leaf Number)) : ScriptMemory Number × Option PathError :=
  let result := setCells path held (keysOf path) state.root state.memory
  ({ state with memory := result.1 }, result.2)

/-- A deletion in the map that the path leads to. -/
def deleteNestedValue : ScriptMemory Number :=
  { state with memory := state.memory.deleteFrom (keysOf path) state.root }

end ScriptMemory

end Walkers

/-- The host of scripts as they run. A map that contains itself has no text, and only its JSON encoding fails. -/
def ScriptLibrary.memoryHost {Number : Type} (library : ScriptLibrary Number) :
    ScriptHost Number (ScriptMemory Number) (Cell (Leaf Number)) where
  getNestedValue := ScriptMemory.getNestedValue
  setNestedValue := ScriptMemory.setNestedValue
  deleteNestedValue := ScriptMemory.deleteNestedValue
  literal := .leaf
  toFloat
    | .leaf held => library.toFloat held.value
    | .map _ => none
  sprintV state cell := (state.read cell).map (Value.sprintV library.formatNumber)
  encodeStructured format state :=
    match state.document with
    | some data => some (library.encodeStructured data format)
    | none =>
      match format with
      | .json => some (.error "json: unsupported value: encountered a cycle via map[string]interface \x7b\x7d")
      | .xml => none
      | .protobuf => some (.error "cannot encode protobuf")
      | .bytes => some (.error "cannot encode bytes")

theorem encodeStructured_document {Number : Type} {library : ScriptLibrary Number}
    {state : ScriptMemory Number}
    {data : DataMap Number} (found : state.document = some data) (format : Format) :
    library.memoryHost.encodeStructured format state = some (library.encodeStructured data format) := by
  dsimp only [ScriptLibrary.memoryHost]
  rw [found]

/-! ### What is loaded reads as the document -/

section Loaded

variable {Number : Type}

theorem entries_leaf (held : Leaf Number) : (Value.view Number).entries held.value = none := by
  cases held <;> rfl

/-- The maps of a memory are still there, and the same. -/
def KeepsMaps (memory grown : Memory String (Leaf Number)) : Prop :=
  ∀ (other : Nat) entries, memory.maps[other]? = some entries → grown.maps[other]? = some entries

theorem KeepsMaps.trans {memory grown further : Memory String (Leaf Number)} (first : KeepsMaps memory grown)
    (second : KeepsMaps grown further) : KeepsMaps memory further :=
  fun other entries found => second other entries (first other entries found)

theorem KeepsMaps.reads {memory grown : Memory String (Leaf Number)} (grows : KeepsMaps memory grown)
    {cell : Cell (Leaf Number)} {value : Value Number}
    (reads : memory.ReadsAs (Value.view Number) Leaf.value cell value) :
    grown.ReadsAs (Value.view Number) Leaf.value cell value := by
  obtain ⟨depth, done⟩ := reads
  have keeps : Keeps memory memory.maps.length grown := fun other _ entries => grows other entries
  exact ⟨depth, keeps.readTo done (not_reaches_fresh done)⟩

theorem storedEntries_eq {entries : List (String × Cell (Leaf Number))}
    (distinct : (entries.map Prod.fst).Nodup) : storedEntries entries = entries := by
  have added (entries stored : List (String × Cell (Leaf Number)))
      (distinct : ((stored ++ entries).map Prod.fst).Nodup) :
      entries.foldl (fun stored entry => put entry.1 entry.2 stored) stored = stored ++ entries := by
    induction entries generalizing stored with
    | nil => exact (List.append_nil stored).symm
    | cons entry rest hypothesis =>
      have last : put entry.1 entry.2 stored = stored ++ [entry] := by
        refine put_of_not_mem entry.2 fun member => ?_
        rw [List.map_append, List.map_cons] at distinct
        exact (List.nodup_append.mp distinct).2.2 _ member _ List.mem_cons_self rfl
      rw [List.foldl_cons, last, hypothesis]
      · exact List.append_assoc ..
      · rw [List.append_assoc]
        exact distinct
  exact added entries [] distinct

theorem grows_add {memory : Memory String (Leaf Number)} {entries : List (String × Cell (Leaf Number))}
    {distinct : (entries.map Prod.fst).Nodup} : KeepsMaps memory (memory.add entries distinct) :=
  fun _ _ => add_of_some

theorem stored_reads {memory : Memory String (Leaf Number)} {entries : List (String × Cell (Leaf Number))}
    {fields : DataMap Number} (distinct : (fields.map Prod.fst).Nodup)
    (all : List.Forall₂ (fun entry field => entry.1 = field.1 ∧
      memory.ReadsAs (Value.view Number) Leaf.value entry.2 field.2) entries fields) :
    (memory.add (storedEntries entries) (nodup_storedEntries entries)).ReadsAs (Value.view Number) Leaf.value
      (.map memory.maps.length) (.object fields) := by
  have keys : entries.map Prod.fst = fields.map Prod.fst := by
    induction all with
    | nil => rfl
    | cons both _ hypothesis =>
      rw [List.map_cons, List.map_cons, both.1, hypothesis (List.nodup_cons.mp distinct).2]
  have same := storedEntries_eq (keys ▸ distinct)
  have present : (memory.add (storedEntries entries) (nodup_storedEntries entries)).maps[memory.maps.length]? =
      some entries := add_fresh.trans (congrArg some same)
  have read : List.Forall₂ (fun entry field => entry.1 = field.1 ∧
      (memory.add (storedEntries entries) (nodup_storedEntries entries)).read (Value.view Number) Leaf.value entry.2 =
        some field.2) entries fields :=
    all.imp fun entry field both =>
      let ⟨_, done⟩ := grows_add.reads both.2
      ⟨both.1, read_of_readTo done⟩
  exact ⟨_, readTo_map.mpr ⟨entries, fields, present, rfl, read⟩⟩

mutual

theorem loadValue_reads (memory : Memory String (Leaf Number)) (value : Value Number)
    (distinct : value.Distinct) :
    KeepsMaps memory (loadValue memory value).1 ∧
      (loadValue memory value).1.ReadsAs (Value.view Number) Leaf.value (loadValue memory value).2 value := by
  match value with
  | .null | .bool _ | .number _ | .string _ | .array _ => exact ⟨fun _ _ found => found, 0, rfl⟩
  | .object fields =>
    obtain ⟨grows, all⟩ := loadFields_reads memory fields distinct.2
    have added := @grows_add _ (loadFields memory fields).1 _ (nodup_storedEntries (loadFields memory fields).2)
    exact ⟨grows.trans added, stored_reads distinct.1 all⟩

theorem loadFields_reads (memory : Memory String (Leaf Number)) (fields : DataMap Number)
    (distinct : distinctFields fields) :
    KeepsMaps memory (loadFields memory fields).1 ∧
      List.Forall₂ (fun entry field => entry.1 = field.1 ∧
        (loadFields memory fields).1.ReadsAs (Value.view Number) Leaf.value entry.2 field.2)
        (loadFields memory fields).2 fields := by
  match fields with
  | [] => exact ⟨fun _ _ found => found, .nil⟩
  | (key, value) :: fields =>
    obtain ⟨first, reads⟩ := loadValue_reads memory value distinct.1
    obtain ⟨others, all⟩ := loadFields_reads (loadValue memory value).1 fields distinct.2
    exact ⟨first.trans others, .cons ⟨rfl, others.reads reads⟩ all⟩

end

/-- The document of a memory, as a relation. -/
def ScriptMemory.Holds (state : ScriptMemory Number) (data : DataMap Number) : Prop :=
  state.memory.ReadsAs (Value.view Number) Leaf.value (.map state.root) (.object data)

theorem holds_iff {state : ScriptMemory Number} {data : DataMap Number} :
    state.Holds data ↔ state.document = some data := by
  constructor
  · rintro ⟨depth, done⟩
    have read := read_of_readTo done
    rw [ScriptMemory.document, ScriptMemory.read, read]
    rfl
  · intro found
    obtain ⟨value, read, opened⟩ := Option.bind_eq_some_iff.mp found
    obtain rfl := ((Value.view Number).entries_eq_some value data).mp opened
    exact ⟨_, read⟩

/-- A loaded document is held. -/
theorem holds_load {data : DataMap Number} (distinct : (Value.object data).Distinct) :
    (ScriptMemory.load data).Holds data := by
  obtain ⟨-, all⟩ := loadFields_reads _ data distinct.2
  exact stored_reads distinct.1 all

end Loaded

/-! ### Two hosts that agree -/

section Agreement

variable {Number State Item Twin Other : Type} (library : ScriptLibrary Number) {host : ScriptHost Number State Item}
  {other : ScriptHost Number Twin Other} {state : State} {twin : Twin} {matched : Item → Other → Prop}

/-- The same failure, or results that match. -/
inductive Alike (matched : Item → Other → Prop) : Except ScriptFailure Item → Except ScriptFailure Other → Prop
  | error (failure : ScriptFailure) : Alike matched (.error failure) (.error failure)
  | ok {item : Item} {value : Other} (both : matched item value) : Alike matched (.ok item) (.ok value)

/-- What expressions are evaluated from is the same. -/
structure Agrees (host : ScriptHost Number State Item) (other : ScriptHost Number Twin Other) (state : State) (twin : Twin)
    (matched : Item → Other → Prop) : Prop where
  get : ∀ path, Option.Rel matched (host.getNestedValue path state) (other.getNestedValue path twin)
  literal : ∀ leaf, matched (host.literal leaf) (other.literal leaf)
  toFloat : ∀ item value, matched item value → host.toFloat item = other.toFloat value
  sprintV : ∀ item value, matched item value → host.sprintV state item = other.sprintV twin value

variable (agrees : Agrees host other state twin matched) {library}

include agrees

theorem Agrees.operand (now : Number) (expr : List Char) :
    Alike matched (host.operand library now state expr) (other.operand library now twin expr) := by
  rw [ScriptHost.operand, ScriptHost.operand]
  split
  case isTrue =>
    split
    · exact .error .panic
    · exact .ok (agrees.literal _)
  case isFalse =>
    split
    · exact .ok (agrees.literal _)
    split
    · exact .ok (agrees.literal _)
    split
    · exact .ok (agrees.literal _)
    split
    · exact .ok (agrees.literal _)
    split
    case h_1 path _ =>
      have found := agrees.get (String.ofList path)
      cases here : host.getNestedValue (String.ofList path) state with
      | none =>
        rw [here] at found
        cases there : other.getNestedValue (String.ofList path) twin with
        | none => exact .ok (agrees.literal _)
        | some value => rw [there] at found; cases found
      | some item =>
        rw [here] at found
        cases there : other.getNestedValue (String.ofList path) twin with
        | none => rw [there] at found; cases found
        | some value =>
          rw [there] at found
          obtain ⟨both⟩ := found
          exact .ok both
    case h_2 =>
      split
      · exact .ok (agrees.literal _)
      · exact .ok (agrees.literal _)

theorem Agrees.combine (op : Operation) {lv rv : Item} {left right : Other} (first : matched lv left)
    (second : matched rv right) :
    Option.Rel (Alike matched) (host.combine library state op lv rv) (other.combine library twin op left right) := by
  rw [ScriptHost.combine, ScriptHost.combine, agrees.toFloat lv left first, agrees.toFloat rv right second,
    agrees.sprintV lv left first, agrees.sprintV rv right second]
  split
  · cases op with
    | add | sub | mul => exact .some (.ok (agrees.literal _))
    | div =>
      dsimp only
      split
      · exact .some (.error _)
      · exact .some (.ok (agrees.literal _))
  · split
    · split
      · exact .some (.ok (agrees.literal _))
      · exact .some (.error _)
    · exact .none

theorem Agrees.evalFrom (now : Number) (left : List Operation) (expr : List Char) :
    Alike matched (host.evalFrom library now state left expr) (other.evalFrom library now twin left expr) := by
  match left with
  | [] =>
    rw [evalFrom_nil, evalFrom_nil]
    exact agrees.operand now expr
  | op :: others =>
    have further := Agrees.evalFrom now others expr
    cases found : cut (spelled op) expr with
    | none =>
      rw [evalFrom_none others found, evalFrom_none others found]
      exact further
    | some parts =>
      obtain ⟨before, after⟩ := parts
      by_cases empty : before = []
      · subst empty
        rw [evalFrom_empty others found, evalFrom_empty others found]
        exact further
      · have shorter := length_of_cut op found
        have first := Agrees.evalFrom now operations (trimSpace before)
        have second := Agrees.evalFrom now operations (trimSpace after)
        rw [evalFrom_some others found empty, evalFrom_some others found empty, evalExpr, evalExpr, evalExpr, evalExpr]
        generalize host.evalFrom library now state operations (trimSpace before) = lv at first
        generalize other.evalFrom library now twin operations (trimSpace before) = left at first
        generalize host.evalFrom library now state operations (trimSpace after) = rv at second
        generalize other.evalFrom library now twin operations (trimSpace after) = right at second
        cases first with
        | error failure => exact .error failure
        | ok lhs =>
          cases second with
          | error failure => exact .error failure
          | ok rhs =>
            rename_i lv left rv right
            have combined : Option.Rel (Alike matched) (host.combine library state op lv rv)
                (other.combine library twin op left right) := agrees.combine op lhs rhs
            dsimp only
            generalize host.combine library state op lv rv = result at combined
            generalize other.combine library twin op left right = value at combined
            cases combined with
            | none => exact further
            | some both => exact both
termination_by (expr.length, left.length)
decreasing_by
  · exact Prod.Lex.right _ (Nat.lt_succ_self _)
  · exact Prod.Lex.left _ _ shorter.1
  · exact Prod.Lex.left _ _ shorter.2

end Agreement

section Memory

variable {Number : Type} {library : ScriptLibrary Number} {state : ScriptMemory Number} {data : DataMap Number}

theorem ScriptMemory.Holds.agrees (holds : state.Holds data) :
    Agrees library.memoryHost library.treeHost state data (state.memory.ReadsAs (Value.view Number) Leaf.value) where
  get path := by
    obtain ⟨depth, done⟩ := holds
    show Option.Rel _ (state.memory.follow (keysOf path) (.map state.root)) (MqConnector.getNestedValue path data).toOption
    rw [toOption_getNestedValue]
    exact follow_reads entries_leaf (keysOf path) (keysOf_ne_nil path) done
  literal leaf := ⟨0, rfl⟩
  toFloat cell value reads := by
    obtain ⟨depth, done⟩ := reads
    cases cell with
    | leaf held =>
      obtain rfl := Option.some.inj ((readTo_leaf held).symm.trans done)
      rfl
    | map address =>
      cases depth with
      | zero => cases done
      | succ depth =>
        obtain ⟨-, listed, -, rfl, -⟩ := readTo_map.mp done
        rfl
  sprintV cell value reads := by
    obtain ⟨depth, done⟩ := reads
    show (state.read cell).map _ = _
    rw [ScriptMemory.read, read_of_readTo done]
    rfl

theorem setCells_error {memory : Memory String (Leaf Number)} (path : String) {held : Cell (Leaf Number)}
    {value : Value Number} (keys : List String) {address depth : Nat} {listed : DataMap Number}
    (reads : memory.readTo (Value.view Number) Leaf.value depth (.map address) = some (.object listed)) :
    (setCells path held keys address memory).2 = (setKeys path value keys listed).2 := by
  induction keys generalizing memory address depth listed with
  | nil => rfl
  | cons key rest hypothesis =>
    cases rest with
    | nil => rfl
    | cons next rest =>
      rw [setCells, setKeys]
      have shown : memory.readTo (Value.view Number) Leaf.value depth (.map address) =
          some ((Value.view Number).node listed) := reads
      rcases lookup_reads shown key with
        ⟨looked, found⟩ | ⟨held, looked, found⟩ | ⟨child, inner, looked, found, read⟩
      · rw [looked, found]
        obtain ⟨entries, present⟩ : ∃ entries, memory.maps[address]? = some entries :=
          ⟨_, List.getElem?_eq_getElem (lt_of_reaches reads (reaches_self address))⟩
        have empty := @link_fresh _ _ _ _ _ key _ present
        have fresh : (memory.link address key).readTo (Value.view Number) Leaf.value 1 (.map memory.maps.length) =
            some (.object []) := readTo_empty empty
        exact hypothesis fresh
      · rw [looked, found]
        cases held <;> rfl
      · rw [looked, found]
        exact hypothesis read

theorem setFrom_eq {memory : Memory String (Leaf Number)} (path : String) {held : Cell (Leaf Number)}
    (keys : List String) (address : Nat) :
    memory.setFrom held keys address =
      match setCells path held keys address memory with
      | (edited, none) => some edited
      | (_, some _) => none := by
  induction keys generalizing memory address with
  | nil => rfl
  | cons key rest hypothesis =>
    cases rest with
    | nil => rfl
    | cons next rest =>
      rw [Memory.setFrom, setCells]
      cases (memory.entriesAt address).lookup key with
      | none => exact hypothesis _
      | some child =>
        cases child with
        | leaf held => rfl
        | map child => exact hypothesis child

end Memory

end MqConnector
