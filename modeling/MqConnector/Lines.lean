/-
This file is the library of text made of terminated lines. It names nothing of the
program: symbols of any type, one of which ends a line.

A line is complete when its mark has been written. What is appended never takes a
complete line away, and a line that is appended where a line has just ended is
complete and alone on it.
-/

import Mathlib.Data.List.Basic

namespace Lines

variable {Symbol : Type} [DecidableEq Symbol] (mark : Symbol)

/-- The complete lines of a text, the first of them begun already. -/
def linesFrom : List Symbol → List Symbol → List (List Symbol)
  | _, [] => []
  | line, symbol :: rest =>
    if symbol = mark then line :: linesFrom [] rest else linesFrom (line ++ [symbol]) rest

def lines (text : List Symbol) : List (List Symbol) :=
  linesFrom mark [] text

def EndsLine (text : List Symbol) : Prop :=
  text = [] ∨ text.getLast? = some mark

instance (text : List Symbol) : Decidable (EndsLine mark text) :=
  inferInstanceAs (Decidable (_ ∨ _))

variable {mark}

theorem mem_linesFrom_append {line found text : List Symbol} (more : List Symbol)
    (member : found ∈ linesFrom mark line text) : found ∈ linesFrom mark line (text ++ more) := by
  induction text generalizing line with
  | nil => exact absurd member List.not_mem_nil
  | cons symbol rest hypothesis =>
    rw [List.cons_append, linesFrom]
    rw [linesFrom] at member
    split at member
    · rename_i ends
      rw [if_pos ends]
      refine List.mem_cons.mpr ((List.mem_cons.mp member).imp_right ?_)
      exact hypothesis
    · rename_i goesOn
      rw [if_neg goesOn]
      exact hypothesis member

theorem mem_lines_append {found text : List Symbol} (more : List Symbol)
    (member : found ∈ lines mark text) : found ∈ lines mark (text ++ more) :=
  mem_linesFrom_append more member

theorem linesFrom_mark (line before more : List Symbol) :
    linesFrom mark line (before ++ mark :: more) =
      linesFrom mark line (before ++ [mark]) ++ lines mark more := by
  induction before generalizing line with
  | nil =>
    rw [List.nil_append, List.nil_append, linesFrom, linesFrom, if_pos rfl, if_pos rfl]
    rfl
  | cons symbol rest hypothesis =>
    rw [List.cons_append, List.cons_append, linesFrom, linesFrom]
    split
    · rw [hypothesis, List.cons_append]
    · exact hypothesis _

theorem lines_append_of_endsLine {text : List Symbol} (ends : EndsLine mark text)
    (more : List Symbol) : lines mark (text ++ more) = lines mark text ++ lines mark more := by
  rcases ends with rfl | last
  · rfl
  · obtain ⟨before, rfl⟩ := List.getLast?_eq_some_iff.mp last
    rw [List.append_assoc]
    exact linesFrom_mark [] before more

theorem linesFrom_record {line record : List Symbol} (plain : mark ∉ record) :
    linesFrom mark line (record ++ [mark]) = [line ++ record] := by
  induction record generalizing line with
  | nil =>
    rw [List.nil_append, linesFrom, if_pos rfl, List.append_nil]
    rfl
  | cons symbol rest hypothesis =>
    obtain ⟨other, plainRest⟩ := not_or.mp (mt List.mem_cons.mpr plain)
    rw [List.cons_append, linesFrom, if_neg fun same => other same.symm,
      hypothesis plainRest, List.append_assoc]
    rfl

theorem mem_lines_record {text record : List Symbol} (ends : EndsLine mark text)
    (plain : mark ∉ record) : record ∈ lines mark (text ++ (record ++ [mark])) := by
  have alone : lines mark (record ++ [mark]) = [record] := linesFrom_record plain
  rw [lines_append_of_endsLine ends, alone]
  exact List.mem_append_right _ List.mem_cons_self

end Lines
