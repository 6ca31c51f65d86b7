/-
This file asks whether a script can crash the process.

A script runs in a goroutine that recovers from nothing. A slice out of range panics, in the
expression that is a single quote. A map that is stored within itself has no end, in a text as
in an XML encoding. And the memory of the process is bounded, while nothing bounds a text
between two size checks.
-/

import MqConnector.ScriptCopies

namespace MqConnector

open NestedMaps SharedMaps ScriptHost
open FlatExpressions (Operation operations)

/-! ### Safe ends -/

section Room

variable {Number : Type} (library : ScriptLibrary Number) (room : Nat) (state : ScriptMemory Number)

/-- How large a value is that is no map: its text, and one. -/
def Leaf.size (held : Leaf Number) : Nat :=
  (held.value.sprintV library.formatNumber).length + 1

namespace ScriptMemory

/-- How large a cell is where all its maps are written out, as in its text and its encoding. -/
def sizeOf (cell : Cell (Leaf Number)) : Nat :=
  state.memory.sizeTo (Leaf.size library) String.length 0 state.memory.maps.length cell

/-- The size of the document. -/
def size : Nat :=
  state.sizeOf library (.map state.root)

end ScriptMemory

end Room

/-! ### The steps of an expression -/

/-- What an evaluation does on its way: it takes an operand, or joins two texts. -/
inductive EvalStep (Item : Type)
  | operand (expr : List Char)
  | join (lv rv : Item)

/-- A step does not crash: an operand is no quote alone, and both sides of a concatenation have a text. -/
def EvalStep.Safe {Number State Item : Type} (host : ScriptHost Number State Item) (state : State) :
    EvalStep Item → Prop
  | .operand expr => expr ≠ ['"'] ∧ expr ≠ ['\'']
  | .join lv rv => (host.sprintV state lv).isSome ∧ (host.sprintV state rv).isSome

section Steps

variable {Number State Item : Type} {library : ScriptLibrary Number} {host : ScriptHost Number State Item}
  {now : Number} {state : State} {left : List Operation} {expr : List Char}

end Steps

/-! ### Lines -/

section Safety

variable {Number : Type} {library : ScriptLibrary Number} {answers : ScriptAnswers Number}
  {room maxOps maxIntermediateBytes : Nat} {state : ScriptMemory Number} {data : DataMap Number}

def ScriptMemory.IsTree (state : ScriptMemory Number) : Prop :=
  ∃ data, state.document = some data

/-- The document is a finite tree that the process has room for. -/
def ScriptMemory.Sound (library : ScriptLibrary Number) (room : Nat) (state : ScriptMemory Number) : Prop :=
  state.IsTree ∧ state.size library ≤ room

end Safety

/-! ### A safe script, and two that crash -/

section Examples

variable {Number : Type} {library : ScriptLibrary Number} {answers : ScriptAnswers Number} {state : ScriptMemory Number}
  {room : Nat} {now : Number} {path : String} {expr : List Char}

section Values

variable (state : ScriptMemory ℚ)

end Values

end Examples

end MqConnector
