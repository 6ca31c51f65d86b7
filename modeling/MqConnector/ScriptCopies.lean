/-
This file asks whether an assignment in a script copies its value: whether scripts run on
shared maps as they do on documents that are values.

An assignment of a map stores a reference, so that the map is reached on two ways.
-/

import MqConnector.ScriptMemory
import MqConnector.ScriptArithmetic

namespace MqConnector

open NestedMaps SharedMaps ScriptHost
open FlatExpressions (Operation operations)

/-! ### Lines of a run -/

/-- Every line that is executed meets a condition on the state before it. -/
def ScriptHost.EveryLine {Number State Item : Type} (library : ScriptLibrary Number)
    (host : ScriptHost Number State Item) (answers : ScriptAnswers Number) (maxOps maxIntermediateBytes : Nat)
    (condition : State → ScriptLine → Prop) : List (List Char) → ScriptProgress State → Prop
  | [], _ => True
  | raw :: lines, progress =>
    (answers.cancelled progress.seen = none → skipsLine (trimLine raw) = false → progress.ops < maxOps →
      condition progress.state (parseLine (trimLine raw))) ∧
    ∀ next, host.runLine library answers maxOps maxIntermediateBytes progress raw = .ok next →
      ScriptHost.EveryLine library host answers maxOps maxIntermediateBytes condition lines next

section Lines

variable {Number State Item : Type} {library : ScriptLibrary Number} {host : ScriptHost Number State Item}
  {answers : ScriptAnswers Number} {maxOps maxIntermediateBytes : Nat} {condition : State → ScriptLine → Prop}

theorem everyLine_append {before after : List (List Char)} {progress : ScriptProgress State}
    (every : host.EveryLine library answers maxOps maxIntermediateBytes condition (before ++ after) progress) :
    host.EveryLine library answers maxOps maxIntermediateBytes condition before progress := by
  induction before generalizing progress with
  | nil => trivial
  | cons raw before hypothesis =>
    exact ⟨every.1, fun next ran => hypothesis (every.2 next ran)⟩

end Lines

namespace ScriptMemory

variable {Number : Type} (state : ScriptMemory Number)

def container (path : String) : Nat :=
  state.memory.container (keysOf path) state.root

/-- The map that an edit at a path changes is reached from the document on one way. -/
def Unshared (path : String) : Prop :=
  state.memory.Sole (.map state.root) (state.container path)

/-- What an assignment stores does not hold the map that it is stored in. -/
def StoresOutside (path : String) (expr : List Char) : Prop :=
  ∀ source cell, trimSpace expr = msgPrefix ++ source → state.getNestedValue (String.ofList source) = some cell →
    ¬ state.memory.Reaches cell (state.container path)

/-- A line that edits no shared map, and stores nothing in itself. -/
def CopiesLine : ScriptLine → Prop
  | .delete path => state.Unshared path
  | .assign path expr => state.Unshared path ∧ state.StoresOutside path expr
  | .deleteRoot | .ignored => True

end ScriptMemory

/-! ### One line -/

section Step

variable {Number : Type} {library : ScriptLibrary Number} {state : ScriptMemory Number} {data : DataMap Number}

theorem combine_literal {Number State Item : Type} {library : ScriptLibrary Number}
    {host : ScriptHost Number State Item}
    {state : State} {op : Operation} {lv rv item : Item} {result : Except ScriptFailure Item}
    (combined : host.combine library state op lv rv = some result) (done : result = .ok item) :
    ∃ held, item = host.literal held := by
  subst done
  rw [ScriptHost.combine] at combined
  split at combined
  · cases op with
    | add | sub | mul => exact ⟨_, (Except.ok.inj (Option.some.inj combined)).symm⟩
    | div =>
      dsimp only at combined
      split at combined
      · cases combined
      · exact ⟨_, (Except.ok.inj (Option.some.inj combined)).symm⟩
  · split at combined
    · split at combined
      · exact ⟨_, (Except.ok.inj (Option.some.inj combined)).symm⟩
      · cases combined
    · cases combined

/-- An operand is a literal, or what stands at a path of the message. -/
theorem operand_item {Number State Item : Type} {library : ScriptLibrary Number}
    {host : ScriptHost Number State Item} {state : State} {now : Number} {expr : List Char} {item : Item}
    (done : host.operand library now state expr = .ok item) :
    (∃ held, item = host.literal held) ∨
      ∃ source, expr = msgPrefix ++ source ∧ host.getNestedValue (String.ofList source) state = some item := by
  rw [ScriptHost.operand] at done
  have literal {held : Leaf Number} (same : (Except.ok (host.literal held) : Except ScriptFailure _) = .ok item) :
      ∃ held, item = host.literal held := ⟨held, (Except.ok.inj same).symm⟩
  split at done
  case isTrue =>
    split at done
    · cases done
    · exact Or.inl (literal done)
  case isFalse =>
    split at done
    · exact Or.inl (literal done)
    split at done
    · exact Or.inl (literal done)
    split at done
    · exact Or.inl (literal done)
    split at done
    · exact Or.inl (literal done)
    split at done
    case h_1 source path =>
      cases found : host.getNestedValue (String.ofList source) state with
      | none =>
        rw [found] at done
        exact Or.inl (literal done)
      | some cell =>
        rw [found] at done
        exact Or.inr ⟨source, cutPrefix_eq_some path, found.trans (congrArg some (Except.ok.inj done))⟩
    case h_2 =>
      split at done
      · exact Or.inl (literal done)
      · exact Or.inl (literal done)

/-- An expression is made of literals, or it is a path alone and what is found there. -/
theorem evalFrom_item {Number State Item : Type} {library : ScriptLibrary Number}
    {host : ScriptHost Number State Item} {state : State} {now : Number} {left : List Operation} {expr : List Char}
    {item : Item} (done : host.evalFrom library now state left expr = .ok item) :
    (∃ held, item = host.literal held) ∨
      ∃ source, expr = msgPrefix ++ source ∧ host.getNestedValue (String.ofList source) state = some item := by
  induction left with
  | nil =>
    rw [evalFrom_nil] at done
    exact operand_item done
  | cons op others hypothesis =>
    cases found : cut (spelled op) expr with
    | none =>
      rw [evalFrom_none others found] at done
      exact hypothesis done
    | some parts =>
      obtain ⟨before, after⟩ := parts
      by_cases empty : before = []
      · subst empty
        rw [evalFrom_empty others found] at done
        exact hypothesis done
      · rw [evalFrom_some others found empty] at done
        split at done
        · cases done
        split at done
        · cases done
        split at done
        case h_1 result combined => exact Or.inl (combine_literal combined done)
        case h_2 => exact hypothesis done

theorem evalFrom_map {now : Number} {left : List Operation} {expr : List Char} {address : Nat}
    (done : library.memoryHost.evalFrom library now state left expr = .ok (.map address)) :
    ∃ source, expr = msgPrefix ++ source ∧ state.getNestedValue (String.ofList source) = some (.map address) := by
  rcases evalFrom_item done with ⟨held, literal⟩ | path
  · have same : Cell.map address = .leaf held := literal
    cases same
  · exact path

theorem ScriptMemory.StoresOutside.not_reaches {path : String} {expr : List Char}
    (outside : state.StoresOutside path expr)
    {now : Number} {cell : Cell (Leaf Number)} (done : library.memoryHost.evalExpr library now state expr = .ok cell) :
    ¬ state.memory.Reaches cell (state.container path) := by
  cases cell with
  | leaf held => exact not_reaches_leaf held
  | map address =>
    obtain ⟨source, shape, found⟩ := evalFrom_map done
    exact outside source _ shape found

theorem evalLine_alike (holds : state.Holds data) (now : Number) {line : ScriptLine}
    (copies : state.CopiesLine line) :
    Alike ScriptMemory.Holds (library.memoryHost.evalLine library now state line)
      (library.treeHost.evalLine library now data line) := by
  cases line with
  | deleteRoot => exact .error _
  | ignored => exact .ok holds
  | delete path =>
    obtain ⟨depth, done⟩ := holds
    obtain ⟨other, deleted⟩ := deleteFrom_reads entries_leaf (keysOf path) done copies
    refine .ok ⟨other, ?_⟩
    have edited : library.treeHost.deleteNestedValue path data = (Value.view Number).delete (keysOf path) data :=
      deleteNestedValue_eq path data
    rw [edited]
    exact deleted
  | assign path expr =>
    have evaluated : Alike (state.memory.ReadsAs (Value.view Number) Leaf.value)
        (library.memoryHost.evalExpr library now state expr) (library.treeHost.evalExpr library now data expr) :=
      holds.agrees.evalFrom now operations (trimSpace expr)
    have apart {cell : Cell (Leaf Number)} := @ScriptMemory.StoresOutside.not_reaches _ library _ _ _ copies.2 now cell
    rw [ScriptHost.evalLine, ScriptHost.evalLine]
    generalize library.memoryHost.evalExpr library now state expr = result at evaluated apart
    generalize library.treeHost.evalExpr library now data expr = other at evaluated
    cases evaluated with
    | error failure => exact .error failure
    | @ok cell value reads =>
      obtain ⟨depth, done⟩ := holds
      obtain ⟨other, valued⟩ := reads
      have errors : (setCells path cell (keysOf path) state.root state.memory).2 = (setNestedValue path data value).2 :=
        setCells_error path (keysOf path) done
      have sets := setFrom_reads entries_leaf (keysOf path) (readTo_mono (Nat.le_max_left depth other) done)
        (readTo_mono (Nat.le_max_right depth other) valued) copies.1 (apart rfl)
      have stored : library.memoryHost.setNestedValue path state cell =
          ({ state with memory := (setCells path cell (keysOf path) state.root state.memory).1 },
            (setCells path cell (keysOf path) state.root state.memory).2) := rfl
      have set : library.treeHost.setNestedValue path data value = setNestedValue path data value := rfl
      rw [setFrom_eq path] at sets
      dsimp only
      rw [stored, set]
      generalize setCells path cell (keysOf path) state.root state.memory = result at errors sets
      obtain ⟨edited, none | error⟩ := result
      · cases tree : setNestedValue path data value with
        | mk fields failure =>
        rw [tree] at errors
        obtain rfl : none = failure := errors
        rw [(setNestedValue_eq_none path data value).mp tree] at sets
        exact .ok sets
      · cases tree : setNestedValue path data value with
        | mk fields failure =>
        rw [tree] at errors
        obtain rfl : some error = failure := errors
        exact .error _

end Step

/-! ### Runs -/

section Runs

variable {Number : Type} {library : ScriptLibrary Number} {answers : ScriptAnswers Number}
  {maxOps maxIntermediateBytes : Nat}

/-- A run in memory and one on a value stand alike: the memory holds the value. -/
structure SameProgress (progress : ScriptProgress (ScriptMemory Number)) (twin : ScriptProgress (DataMap Number)) :
    Prop where
  holds : progress.state.Holds twin.state
  seen : progress.seen = twin.seen
  ops : progress.ops = twin.ops

theorem encode_alike {state : ScriptMemory Number} {data : DataMap Number} (holds : state.Holds data)
    (format : Format) :
    library.memoryHost.encodeStructured format state = library.treeHost.encodeStructured format data :=
  encodeStructured_document (holds_iff.mp holds) format

theorem runLine_alike {progress : ScriptProgress (ScriptMemory Number)}
    {twin : ScriptProgress (DataMap Number)}
    (same : SameProgress progress twin) {raw : List Char}
    (copies : answers.cancelled progress.seen = none → skipsLine (trimLine raw) = false → progress.ops < maxOps →
      progress.state.CopiesLine (parseLine (trimLine raw))) :
    Alike SameProgress
      (library.memoryHost.runLine library answers maxOps maxIntermediateBytes progress raw)
      (library.treeHost.runLine library answers maxOps maxIntermediateBytes twin raw) := by
  obtain ⟨holds, seen, ops⟩ := same
  rw [ScriptHost.runLine, ScriptHost.runLine, ← seen, ← ops]
  cases cancelled : answers.cancelled progress.seen with
  | some err => exact .error _
  | none =>
    dsimp only
    split
    case isTrue => exact .ok ⟨holds, rfl, rfl⟩
    case isFalse executed =>
      split
      case isTrue => exact .error _
      case isFalse within =>
        have line : Alike ScriptMemory.Holds
            (library.memoryHost.evalLine library (answers.now progress.seen) progress.state (parseLine (trimLine raw)))
            (library.treeHost.evalLine library (answers.now progress.seen) twin.state (parseLine (trimLine raw))) :=
          evalLine_alike holds _ (copies cancelled (Bool.eq_false_iff.mpr executed) (by omega))
        generalize library.memoryHost.evalLine library (answers.now progress.seen) progress.state
          (parseLine (trimLine raw)) = result at line
        generalize library.treeHost.evalLine library (answers.now progress.seen) twin.state
          (parseLine (trimLine raw)) = other at line
        cases line with
        | error failure => exact .error failure
        | @ok state data both =>
          dsimp only
          rw [ScriptHost.checkSize, ScriptHost.checkSize, encode_alike both]
          split
          case h_1 => exact .error _
          case h_2 => exact .ok ⟨both, rfl, rfl⟩

/-- Lines run alike over shared maps and over trees. -/
theorem runLines_alike (lines : List (List Char)) {progress : ScriptProgress (ScriptMemory Number)}
    {twin : ScriptProgress (DataMap Number)} (same : SameProgress progress twin)
    (every : library.memoryHost.EveryLine library answers maxOps maxIntermediateBytes ScriptMemory.CopiesLine lines
      progress) :
    Alike SameProgress
      (library.memoryHost.runLines library answers maxOps maxIntermediateBytes lines progress)
      (library.treeHost.runLines library answers maxOps maxIntermediateBytes lines twin) := by
  induction lines generalizing progress twin with
  | nil => exact .ok same
  | cons raw lines hypothesis =>
    have line : Alike SameProgress
        (library.memoryHost.runLine library answers maxOps maxIntermediateBytes progress raw)
        (library.treeHost.runLine library answers maxOps maxIntermediateBytes twin raw) :=
      runLine_alike same every.1
    have further := every.2
    rw [ScriptHost.runLines, ScriptHost.runLines]
    generalize library.memoryHost.runLine library answers maxOps maxIntermediateBytes progress raw = result at line further
    generalize library.treeHost.runLine library answers maxOps maxIntermediateBytes twin raw = other at line
    cases line with
    | error failure => exact .error failure
    | ok both => exact hypothesis both (further _ rfl)

/-- Where every executed line edits a map that is reached on one way, and stores nothing that holds this map, a
script run line by line is its interpretation over values, after every line. -/
theorem script_copies_values {data : DataMap Number} (distinct : (Value.object data).Distinct)
    {script : String}
    (every : library.memoryHost.EveryLine library answers maxOps maxIntermediateBytes ScriptMemory.CopiesLine
      (splitScriptLines script) { state := ScriptMemory.load data })
    (before after : List (List Char)) (split : splitScriptLines script = before ++ after) :
    Alike SameProgress
      (library.memoryHost.runLines library answers maxOps maxIntermediateBytes before
        { state := ScriptMemory.load data })
      (library.treeHost.runLines library answers maxOps maxIntermediateBytes before { state := data }) := by
  rw [split] at every
  exact runLines_alike before ⟨holds_load distinct, rfl, rfl⟩ (everyLine_append every)

end Runs

/-! ### A shared map -/

section Shared

def oneMap : DataMap ℚ :=
  [("b", .object [("x", .number 1)])]

theorem distinct_oneMap : (Value.object oneMap).Distinct := by
  simp [oneMap, Value.Distinct, distinctFields]

theorem copiesLine_oneMap : (ScriptMemory.load oneMap).CopiesLine (.assign "a" "msg.b".toList) := by
  obtain ⟨depth, reads⟩ := holds_load distinct_oneMap
  refine ⟨sole_self reads, fun source cell shape found => ?_⟩
  have named : msgPrefix ++ ['b'] = msgPrefix ++ source := shape
  obtain rfl := List.append_cancel_left named
  obtain rfl : Cell.map 0 = cell := Option.some.inj found
  have held : ("b", Cell.map 0) ∈ [("b", (Cell.map 0 : Cell (Leaf ℚ)))] := List.mem_singleton_self _
  exact not_reaches_of_entry reads rfl held

theorem parseLine_copy : parseLine (trimLine "msg.a = msg.b".toList) = .assign "a" "msg.b".toList := by
  decide

theorem evalFrom_operand {Number State Item : Type} {library : ScriptLibrary Number}
    {host : ScriptHost Number State Item} {now : Number} {state : State} {expr : List Char}
    (alone : ∀ op, cut (spelled op) expr = none) (left : List Operation) :
    host.evalFrom library now state left expr = host.operand library now state expr := by
  induction left with
  | nil => exact evalFrom_nil
  | cons op others hypothesis => rw [evalFrom_none others (alone op), hypothesis]

theorem runLine_executed {Number State Item : Type} {library : ScriptLibrary Number}
    {host : ScriptHost Number State Item} {answers : ScriptAnswers Number} {maxOps : Nat}
    {progress : ScriptProgress State} {raw : List Char} {state : State}
    (goesOn : answers.cancelled progress.seen = none) (executed : skipsLine (trimLine raw) = false)
    (within : progress.ops < maxOps)
    (done : host.evalLine library (answers.now progress.seen) progress.state (parseLine (trimLine raw)) = .ok state) :
    host.runLine library answers maxOps 0 progress raw =
      .ok { state := state, seen := progress.seen + 1, ops := progress.ops + 1 } := by
  rw [ScriptHost.runLine, goesOn]
  dsimp only
  rw [executed, if_neg Bool.false_ne_true, if_neg (Nat.not_lt.mpr within), done]
  rfl

/-- `oneMap` after `msg.a = msg.b`. -/
def copiedMap : ScriptMemory ℚ :=
  (ScriptMemory.setNestedValue "a" (ScriptMemory.load oneMap) (.map 0)).1

/-- `copiedMap` after `delete msg.b`. -/
def movedMap : ScriptMemory ℚ :=
  copiedMap.deleteNestedValue "b"

theorem copiesLine_delete : copiedMap.CopiesLine (.delete "b") := by
  have reads : copiedMap.Holds [("b", .object [("x", .number 1)]), ("a", .object [("x", .number 1)])] := ⟨2, rfl⟩
  exact sole_self reads.choose_spec

/-- The map that was copied is reached under its copy alone, so that the copy is edited and nothing else. -/
theorem copiesLine_edit : movedMap.CopiesLine (.assign "a.x" "2".toList) := by
  have inner : movedMap.memory.readTo (Value.view ℚ) Leaf.value 1 (.map 0) = some (.object [("x", .number 1)]) := rfl
  have root : movedMap.memory.maps[1]? = some [("a", .map 0)] := rfl
  have only {path : List String} (leads : movedMap.memory.follow path (.map 1) = some (.map 0)) : path = ["a"] := by
    cases path with
    | nil => cases leads
    | cons key rest =>
      rw [follow_map root, List.lookup_cons] at leads
      split at leads
      case h_1 same =>
        cases rest with
        | nil => rw [beq_iff_eq.mp same]
        | cons next rest => exact absurd leads (not_follow_self inner)
      case h_2 => cases leads
  refine ⟨fun path other first second => (only first).trans (only second).symm, fun source cell shape => ?_⟩
  have number : trimSpace "2".toList = ['2'] := by decide
  rw [number] at shape
  cases shape

/-- A map is copied, the path it was read from is deleted, and then the copy is edited. -/
theorem script_copies_moved_map :
    Alike SameProgress
      ((exactLibrary bareLibrary).memoryHost.runLines (exactLibrary bareLibrary) { now := fun _ => 0 } 1000 0
        ["msg.a = msg.b".toList, "delete msg.b".toList, "msg.a.x = 2".toList] { state := ScriptMemory.load oneMap })
      ((exactLibrary bareLibrary).treeHost.runLines (exactLibrary bareLibrary) { now := fun _ => 0 } 1000 0
        ["msg.a = msg.b".toList, "delete msg.b".toList, "msg.a.x = 2".toList] { state := oneMap }) := by
  have lines : splitScriptLines "msg.a = msg.b; delete msg.b; msg.a.x = 2" =
      ["msg.a = msg.b".toList, "delete msg.b".toList, "msg.a.x = 2".toList] := by decide
  have second : parseLine (trimLine "delete msg.b".toList) = .delete "b" := by decide
  have third : parseLine (trimLine "msg.a.x = 2".toList) = .assign "a.x" "2".toList := by decide
  have copies : (exactLibrary bareLibrary).memoryHost.evalLine (exactLibrary bareLibrary) 0 (ScriptMemory.load oneMap)
      (parseLine (trimLine "msg.a = msg.b".toList)) = .ok copiedMap := by
    have path : (exactLibrary bareLibrary).memoryHost.evalExpr (exactLibrary bareLibrary) 0 (ScriptMemory.load oneMap)
        "msg.b".toList = .ok (.map 0) := by
      refine (evalFrom_operand (fun op => ?_) operations).trans rfl
      cases op <;> decide
    rw [parseLine_copy, ScriptHost.evalLine, path]
    rfl
  have deletes : (exactLibrary bareLibrary).memoryHost.evalLine (exactLibrary bareLibrary) 0 copiedMap
      (parseLine (trimLine "delete msg.b".toList)) = .ok movedMap := by
    rw [second]
    rfl
  have every : (exactLibrary bareLibrary).memoryHost.EveryLine (exactLibrary bareLibrary) { now := fun _ => 0 } 1000 0
      ScriptMemory.CopiesLine (splitScriptLines "msg.a = msg.b; delete msg.b; msg.a.x = 2")
      { state := ScriptMemory.load oneMap } := by
    rw [lines]
    refine ⟨fun _ _ _ => ?_, fun next ran => ⟨fun _ _ _ => ?_, fun last rest => ⟨fun _ _ _ => ?_, fun _ _ => trivial⟩⟩⟩
    · rw [parseLine_copy]
      exact copiesLine_oneMap
    · obtain rfl := Except.ok.inj
        ((runLine_executed rfl (by decide) (Nat.zero_lt_succ 999) copies).symm.trans ran)
      rw [second]
      exact copiesLine_delete
    · obtain rfl := Except.ok.inj
        ((runLine_executed rfl (by decide) (Nat.zero_lt_succ 999) copies).symm.trans ran)
      obtain rfl := Except.ok.inj ((runLine_executed rfl (by decide) (by decide) deletes).symm.trans rest)
      rw [third]
      exact copiesLine_edit
  exact script_copies_values distinct_oneMap every _ [] (lines.trans rfl)

theorem runScript_copied {Number State Item : Type} {library : ScriptLibrary Number}
    {host : ScriptHost Number State Item} {answers : ScriptAnswers Number} {state copied edited : State} {two : Number}
    (goesOn : answers.cancelled = fun _ => none) (number : library.parseFloat "2" = some two)
    (copy : host.setNestedValue "a" state ((host.getNestedValue "b" state).getD (host.literal .null)) = (copied, none))
    (edit : host.setNestedValue "a.x" copied (host.literal (.number two)) = (edited, none)) :
    host.runScript library answers 1000 0 "msg.a = msg.b; msg.a.x = 2" state = .ok edited := by
  have lines : splitScriptLines "msg.a = msg.b; msg.a.x = 2" = ["msg.a = msg.b".toList, "msg.a.x = 2".toList] := by
    decide
  have second : parseLine (trimLine "msg.a.x = 2".toList) = .assign "a.x" "2".toList := by decide
  have path : host.evalExpr library (answers.now 0) state "msg.b".toList =
      .ok ((host.getNestedValue "b" state).getD (host.literal .null)) := by
    refine (evalFrom_operand (fun op => ?_) operations).trans rfl
    cases op <;> decide
  have literal : host.evalExpr library (answers.now 1) copied "2".toList = .ok (host.literal (.number two)) := by
    have digit : "2".toList = ['2'] := rfl
    rw [digit]
    refine (evalFrom_operand (fun op => ?_) operations).trans ((operand_cons _ _ _ _ _ (by decide)).trans ?_)
    · cases op <;> decide
    · have path : cutPrefix msgPrefix ['2'] = none := by decide
      rw [path]
      dsimp only
      rw [show String.ofList ['2'] = "2" from rfl, number]
  have copies : host.evalLine library (answers.now 0) state (parseLine (trimLine "msg.a = msg.b".toList)) =
      .ok copied := by
    rw [parseLine_copy, ScriptHost.evalLine, path]
    dsimp only
    rw [copy]
  have edits : host.evalLine library (answers.now 1) copied (parseLine (trimLine "msg.a.x = 2".toList)) =
      .ok edited := by
    rw [second, ScriptHost.evalLine, literal]
    dsimp only
    rw [edit]
  rw [ScriptHost.runScript, lines, ScriptHost.runLines,
    runLine_executed (congrFun goesOn 0) (by decide) (Nat.zero_lt_succ 999) copies]
  dsimp only
  rw [ScriptHost.runLines, runLine_executed (congrFun goesOn 1) (by decide) (Nat.one_lt_succ_succ 998) edits]
  rfl

/-- A copied map is changed through its copy. -/
theorem copied_map_changes_original :
    ((exactLibrary bareLibrary).memoryHost.runScript (exactLibrary bareLibrary) { now := fun _ => 0 } 1000 0
        "msg.a = msg.b; msg.a.x = 2" (ScriptMemory.load oneMap)).toOption.bind ScriptMemory.document =
      some [("b", .object [("x", .number 2)]), ("a", .object [("x", .number 2)])] ∧
    (exactLibrary bareLibrary).treeHost.runScript (exactLibrary bareLibrary) { now := fun _ => 0 } 1000 0
        "msg.a = msg.b; msg.a.x = 2" oneMap =
      .ok [("b", .object [("x", .number 1)]), ("a", .object [("x", .number 2)])] := by
  have two : (exactLibrary bareLibrary).parseFloat "2" = some 2 := by decide +kernel
  constructor
  · rw [runScript_copied rfl two rfl rfl]
    rfl
  · exact runScript_copied rfl two rfl rfl

end Shared

end MqConnector
