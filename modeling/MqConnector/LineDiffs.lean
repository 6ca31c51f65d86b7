/-
This file models the two line diffs of payloads, `lcsLineDiff` of the dead-letter handlers and
`diff` of the Studio, and asks whether they are minimal and whether they agree.

Both fill a table with the lengths of the longest common subsequences of all suffixes, and walk
it from the top. The script they read off is a shortest one. A text that ends with a newline has
one line more in the Studio.
-/

import Mathlib.Data.List.Sublists

namespace MqConnector

namespace LineDiff

variable {Line : Type}

/-! ### Common subsequences -/

/-- A longest common subsequence has this length. -/
structure IsLongest (length : Nat) (left right : List Line) : Prop where
  reached : ∃ common : List Line, common.Sublist left ∧ common.Sublist right ∧ common.length = length
  bound : ∀ common : List Line, common.Sublist left → common.Sublist right → common.length ≤ length

namespace IsLongest

variable {length other : Nat} {line next : Line} {left right : List Line}

theorem unique (first : IsLongest length left right) (second : IsLongest other left right) :
    length = other := by
  obtain ⟨common, inLeft, inRight, rfl⟩ := first.reached
  obtain ⟨further, there, here, rfl⟩ := second.reached
  exact Nat.le_antisymm (second.bound common inLeft inRight) (first.bound further there here)

theorem nil_left : IsLongest 0 [] right where
  reached := ⟨[], List.nil_sublist _, List.nil_sublist _, rfl⟩
  bound _ empty _ := (congrArg List.length (List.sublist_nil.mp empty)).le

theorem nil_right : IsLongest 0 left [] where
  reached := ⟨[], List.nil_sublist _, List.nil_sublist _, rfl⟩
  bound _ _ empty := (congrArg List.length (List.sublist_nil.mp empty)).le

/-- A line that both lists start with is on a longest one. -/
theorem cons_same (longest : IsLongest length left right) :
    IsLongest (length + 1) (line :: left) (line :: right) where
  reached := by
    obtain ⟨common, inLeft, inRight, rfl⟩ := longest.reached
    exact ⟨line :: common, inLeft.cons_cons line, inRight.cons_cons line, rfl⟩
  bound common inLeft inRight := by
    have shorter := longest.bound common.tail inLeft.tail inRight.tail
    rw [List.length_tail] at shorter
    exact Nat.le_add_of_sub_le shorter

/-- Of two different first lines one is left out. -/
theorem cons_other (differ : line ≠ next) (below : IsLongest length left (next :: right))
    (beside : IsLongest other (line :: left) right) :
    IsLongest (max length other) (line :: left) (next :: right) where
  reached := by
    rcases Nat.le_total other length with less | less
    · obtain ⟨common, inLeft, inRight, same⟩ := below.reached
      exact ⟨common, inLeft.cons line, inRight, same.trans (Nat.max_eq_left less).symm⟩
    · obtain ⟨common, inLeft, inRight, same⟩ := beside.reached
      exact ⟨common, inLeft, inRight.cons next, same.trans (Nat.max_eq_right less).symm⟩
  bound common inLeft inRight := by
    rcases List.sublist_cons_iff.mp inLeft with without | ⟨rest, rfl, -⟩
    · exact (below.bound common without inRight).trans (Nat.le_max_left ..)
    · rcases List.sublist_cons_iff.mp inRight with without | ⟨further, same, -⟩
      · exact (beside.bound _ inLeft without).trans (Nat.le_max_right ..)
      · exact absurd (List.cons.inj same).1 differ

end IsLongest

/-! ### Scripts -/

inductive LineOp
  | eq
  | del
  | add
  deriving DecidableEq

/-- The lines of some operations. -/
def kept (ops : List LineOp) (script : List (LineOp × Line)) : List Line :=
  (script.filter fun step => step.1 ∈ ops).map Prod.snd

@[simp]
theorem kept_cons (ops : List LineOp) (op : LineOp) (line : Line) (script : List (LineOp × Line)) :
    kept ops ((op, line) :: script) = if op ∈ ops then line :: kept ops script else kept ops script := by
  by_cases member : op ∈ ops <;> simp [kept, member]

@[simp]
theorem kept_map (ops : List LineOp) (op : LineOp) (lines : List Line) :
    kept ops (lines.map (op, ·)) = if op ∈ ops then lines else [] := by
  induction lines with
  | nil => simp [kept]
  | cons line lines hypothesis =>
    rw [List.map_cons, kept_cons, hypothesis]
    split <;> rfl

theorem kept_sublist {ops others : List LineOp} (all : ∀ op ∈ ops, op ∈ others)
    (script : List (LineOp × Line)) :
    (kept ops script).Sublist (kept others script) := by
  refine List.Sublist.map _ (List.monotone_filter_right script fun step member => ?_)
  exact decide_eq_true (all step.1 (of_decide_eq_true member))

theorem length_script (script : List (LineOp × Line)) : script.length + (kept [.eq] script).length =
    (kept [.eq, .del] script).length + (kept [.eq, .add] script).length := by
  induction script with
  | nil => rfl
  | cons step script hypothesis =>
    obtain ⟨op, line⟩ := step
    cases op <;> simp <;> omega

/-! ### The table -/

section Table

variable [DecidableEq Line]

/-- A row of the table from the row below it, right to left. -/
def tableRow (line : Line) : List Line → List Nat → List Nat
  | [], _ => [0]
  | next :: right, below =>
    let row := tableRow line right below.tail
    (if line = next then below.tail.headD 0 + 1
      else if row.headD 0 ≤ below.headD 0 then below.headD 0
      else row.headD 0) :: row

/-- `dp`, from the last row up. -/
def lcsTable : List Line → List Line → List (List Nat)
  | [], right => [List.replicate (right.length + 1) 0]
  | line :: left, right =>
    let table := lcsTable left right
    tableRow line right (table.headD []) :: table

/-- `dp[i][j]`. -/
def cell (table : List (List Nat)) (i j : Nat) : Nat :=
  (table.getD i []).getD j 0

theorem tableRow_spec {line : Line} {left right : List Line} {below : List Nat}
    (longest : ∀ j, IsLongest (below.getD j 0) left (right.drop j)) (j : Nat) :
    IsLongest ((tableRow line right below).getD j 0) (line :: left) (right.drop j) := by
  induction right generalizing below j with
  | nil =>
    rw [List.drop_nil]
    cases j <;> exact .nil_right
  | cons next right hypothesis =>
    have tails (j : Nat) : IsLongest (below.tail.getD j 0) left (right.drop j) := by
      have further := longest (j + 1)
      have moved : below.tail.getD j 0 = below.getD (j + 1) 0 := by cases below <;> rfl
      rwa [List.drop_succ_cons, ← moved] at further
    have beside := hypothesis tails
    cases j with
    | succ j => exact beside j
    | zero =>
      have first := longest 0
      have here := beside 0
      have both := tails 0
      simp only [List.drop_zero, ← List.headD_eq_getD] at first here both
      show IsLongest (if _ then _ else _) _ _
      split
      · rename_i same
        exact same ▸ both.cons_same
      · rename_i differ
        have either := first.cons_other differ here
        split
        · rename_i less
          rwa [Nat.max_eq_left less] at either
        · rename_i more
          rwa [Nat.max_eq_right (Nat.le_of_not_le more)] at either

/-- Each cell is the length of a longest common subsequence of what is left. -/
theorem lcsTable_spec (left right : List Line) (i j : Nat) :
    IsLongest (cell (lcsTable left right) i j) (left.drop i) (right.drop j) := by
  induction left generalizing i j with
  | nil =>
    have zero : cell (lcsTable [] right) i j = 0 := by
      cases i with
      | zero =>
        show (List.replicate (right.length + 1) 0).getD j 0 = 0
        rw [List.getD_eq_getElem?_getD, List.getElem?_replicate]
        split <;> rfl
      | succ i => rfl
    rw [zero, List.drop_nil]
    exact .nil_left
  | cons line left hypothesis =>
    cases i with
    | succ i => exact hypothesis i j
    | zero =>
      refine tableRow_spec (fun j => ?_) j
      rw [List.headD_eq_getD]
      exact hypothesis 0 j

/-! ### The walk -/

/-- The walk from a cell, with the lines that are left of both texts. -/
def walk (table : List (List Nat)) : List Line → List Line → Nat → Nat → List (LineOp × Line)
  | [], right, _, _ => right.map (.add, ·)
  | left, [], _, _ => left.map (.del, ·)
  | line :: left, next :: right, i, j =>
    if line = next then (.eq, line) :: walk table left right (i + 1) (j + 1)
    else if cell table i (j + 1) ≤ cell table (i + 1) j then (.del, line) :: walk table left (next :: right) (i + 1) j
    else (.add, next) :: walk table (line :: left) right i (j + 1)
  termination_by left right => left.length + right.length

variable {table : List (List Nat)} {left right : List Line}

theorem walk_nil_right (i j : Nat) : walk table left [] i j = left.map (.del, ·) := by
  cases left <;> rw [walk] <;> simp

/-- The steps keep the lines of either side. -/
theorem kept_walk (i j : Nat) : kept [.eq, .del] (walk table left right i j) = left ∧
    kept [.eq, .add] (walk table left right i j) = right := by
  fun_induction walk table left right i j with
  | case1 => simp
  | case2 => simp
  | case3 i j next left right both => simp [both]
  | case4 i j line left next right differ less both => simp [both]
  | case5 i j line left next right differ more both => simp [both]

/-- A text differs from itself nowhere. -/
theorem walk_self (lines : List Line) (i j : Nat) : ∀ step ∈ walk table lines lines i j, step.1 = .eq := by
  induction lines generalizing i j with
  | nil =>
    rw [walk]
    exact fun step member => absurd member List.not_mem_nil
  | cons line lines hypothesis =>
    rw [walk, if_pos rfl]
    exact List.forall_mem_cons.mpr ⟨rfl, hypothesis (i + 1) (j + 1)⟩

/-- The walk keeps as many lines as its cell says. -/
theorem isLongest_walk (i j : Nat)
    (longest : ∀ down across, IsLongest (cell table (i + down) (j + across)) (left.drop down) (right.drop across)) :
    IsLongest (kept [.eq] (walk table left right i j)).length left right := by
  fun_induction walk table left right i j with
  | case1 right => simpa using IsLongest.nil_left
  | case2 left => simpa using IsLongest.nil_right
  | case3 left line right i j hypothesis =>
    rw [kept_cons, if_pos (List.mem_singleton_self _)]
    refine (hypothesis fun down across => ?_).cons_same
    rw [Nat.add_assoc i, Nat.add_comm 1, Nat.add_assoc j, Nat.add_comm 1]
    exact longest (down + 1) (across + 1)
  | case4 line left next right i j differ less hypothesis =>
    have below : IsLongest (cell table (i + 1) j) left (next :: right) := longest 1 0
    have beside : IsLongest (cell table i (j + 1)) (line :: left) right := longest 0 1
    have either := below.cons_other differ beside
    rw [Nat.max_eq_left less] at either
    rw [kept_cons, if_neg (by decide)]
    refine IsLongest.unique (hypothesis fun down across => ?_) below ▸ either
    rw [Nat.add_assoc i, Nat.add_comm 1]
    exact longest (down + 1) across
  | case5 line left next right i j differ more hypothesis =>
    have beside : IsLongest (cell table i (j + 1)) (line :: left) right := longest 0 1
    have below : IsLongest (cell table (i + 1) j) left (next :: right) := longest 1 0
    have either := below.cons_other differ beside
    rw [Nat.max_eq_right (Nat.le_of_not_le more)] at either
    rw [kept_cons, if_neg (by decide)]
    refine IsLongest.unique (hypothesis fun down across => ?_) beside ▸ either
    rw [Nat.add_assoc j, Nat.add_comm 1]
    exact longest down (across + 1)

end Table

/-! ### The server -/

/-- `splitLines` of the server, which drops an empty last line. -/
def splitLines (text : String) : List (List Char) :=
  if text = "" then []
  else
    let lines := text.toList.splitOn '\n'
    if lines.getLast? = some [] then lines.dropLast else lines

def lcsLineDiff (a b : String) : List (LineOp × List Char) :=
  let aLines := splitLines a
  let bLines := splitLines b
  if aLines = [] ∧ bLines = [] then [] else walk (lcsTable aLines bLines) aLines bLines 0 0

theorem lcsLineDiff_eq (a b : String) : lcsLineDiff a b =
    walk (lcsTable (splitLines a) (splitLines b)) (splitLines a) (splitLines b) 0 0 := by
  rw [lcsLineDiff]
  split
  · rename_i empty
    rw [empty.1, empty.2, walk]
    rfl
  · rfl

/-- The operations turn the lines of one text into those of the other, they keep as many lines as any
subsequence of both has, no script is shorter, and a text has no changes from itself. -/
theorem lcsLineDiff_minimal (a b : String) :
    kept [.eq, .del] (lcsLineDiff a b) = splitLines a ∧ kept [.eq, .add] (lcsLineDiff a b) = splitLines b ∧
      IsLongest (kept [.eq] (lcsLineDiff a b)).length (splitLines a) (splitLines b) ∧
      (∀ script : List (LineOp × List Char), kept [.eq, .del] script = splitLines a →
        kept [.eq, .add] script = splitLines b → (lcsLineDiff a b).length ≤ script.length) ∧
      ∀ step ∈ lcsLineDiff a a, step.1 = .eq := by
  obtain ⟨fromLeft, fromRight⟩ := @kept_walk _ _ (lcsTable (splitLines a) (splitLines b)) (splitLines a) (splitLines b) 0 0
  have longest : IsLongest (kept [.eq] (lcsLineDiff a b)).length (splitLines a) (splitLines b) := by
    rw [lcsLineDiff_eq]
    refine isLongest_walk 0 0 fun down across => ?_
    rw [Nat.zero_add, Nat.zero_add]
    exact lcsTable_spec _ _ down across
  rw [← lcsLineDiff_eq] at fromLeft fromRight
  refine ⟨fromLeft, fromRight, longest, fun script keptLeft keptRight => ?_, ?_⟩
  · have least := longest.bound (kept [.eq] script) (keptLeft ▸ kept_sublist (by decide) script)
      (keptRight ▸ kept_sublist (by decide) script)
    have here := length_script (lcsLineDiff a b)
    have there := length_script script
    rw [fromLeft, fromRight] at here
    rw [keptLeft, keptRight] at there
    omega
  · rw [lcsLineDiff_eq]
    exact walk_self (splitLines a) 0 0

/-! ### The Studio -/

/-- `splitLines` of the Studio. -/
def studioLines (text : String) : List (List Char) :=
  if text = "" then [] else text.toList.splitOn '\n'

structure DiffStep where
  op : LineOp
  left : List Char
  right : List Char
  leftNo : Option Nat
  rightNo : Option Nat

/-- The walk of `diff`, with the numbers of the next lines. -/
def steps (table : List (List Nat)) : List (List Char) → List (List Char) → Nat → Nat → Nat → Nat → List DiffStep
  | [], [], _, _, _, _ => []
  | line :: left, [], i, j, leftNo, rightNo =>
    ⟨.del, line, [], some leftNo, none⟩ :: steps table left [] (i + 1) j (leftNo + 1) rightNo
  | [], next :: right, i, j, leftNo, rightNo =>
    ⟨.add, [], next, none, some rightNo⟩ :: steps table [] right i (j + 1) leftNo (rightNo + 1)
  | line :: left, next :: right, i, j, leftNo, rightNo =>
    if line = next then
      ⟨.eq, line, next, some leftNo, some rightNo⟩ :: steps table left right (i + 1) (j + 1) (leftNo + 1) (rightNo + 1)
    else if cell table i (j + 1) ≤ cell table (i + 1) j then
      ⟨.del, line, [], some leftNo, none⟩ :: steps table left (next :: right) (i + 1) j (leftNo + 1) rightNo
    else ⟨.add, [], next, none, some rightNo⟩ :: steps table (line :: left) right i (j + 1) leftNo (rightNo + 1)
  termination_by left right => left.length + right.length

/-- `diff`, with `MAX_LINES` lines of each text. -/
def diff (beforeText afterText : String) : List DiffStep :=
  let l := (studioLines beforeText).take 10000
  let r := (studioLines afterText).take 10000
  steps (lcsTable l r) l r 0 0 1 1

/-- The operation of a step and its line, from the right side for an added one. -/
def DiffStep.pair (step : DiffStep) : LineOp × List Char :=
  (step.op, if step.op = .add then step.right else step.left)

/-- Both surfaces walk the table alike. -/
theorem pairs_steps (table : List (List Nat)) (left right : List (List Char)) (i j leftNo rightNo : Nat) :
    (steps table left right i j leftNo rightNo).map DiffStep.pair = walk table left right i j := by
  fun_induction steps table left right i j leftNo rightNo with
  | case1 => simp [walk]
  | case2 line left i j leftNo rightNo hypothesis =>
    rw [List.map_cons, hypothesis, walk_nil_right, walk_nil_right]
    rfl
  | case3 next right i j leftNo rightNo hypothesis =>
    rw [List.map_cons, hypothesis, walk, walk]
    rfl
  | case4 left line right i j leftNo rightNo hypothesis =>
    rw [List.map_cons, hypothesis, walk, if_pos rfl]
    rfl
  | case5 line left next right i j leftNo rightNo differ less hypothesis =>
    rw [List.map_cons, hypothesis, walk, if_neg differ, if_pos less]
    rfl
  | case6 line left next right i j leftNo rightNo differ more hypothesis =>
    rw [List.map_cons, hypothesis, walk, if_neg differ, if_neg more]
    rfl

/-- Both sides show the same lines of a text: it does not end with a newline, or the Studio cuts off the empty
line after it. -/
def SameLines (text : String) : Prop :=
  text.toList.getLast? ≠ some '\n' ∨ (splitLines text).length = 10000

theorem getLast?_splitOn {text : List Char} (nonempty : text ≠ []) :
    (text.splitOn '\n').getLast? = some [] ↔ text.getLast? = some '\n' := by
  induction text with
  | nil => exact absurd rfl nonempty
  | cons first rest hypothesis =>
    rw [List.splitOn_cons_eq_if_modifyHead]
    cases rest with
    | nil => by_cases newline : first = '\n' <;> simp [newline]
    | cons second rest =>
      rw [List.getLast?_cons_cons, ← hypothesis (List.cons_ne_nil second rest)]
      have whole := @List.intercalate_splitOn _ (second :: rest) _ _ '\n'
      obtain ⟨line, lines, same⟩ := List.exists_cons_of_ne_nil (List.splitOn_ne_nil '\n' (second :: rest))
      rw [same] at whole ⊢
      split
      · rw [List.getLast?_cons_cons]
      · cases lines with
        | nil =>
          rw [List.intercalate_singleton] at whole
          simp [whole]
        | cons next lines => rw [List.modifyHead_cons, List.getLast?_cons_cons, List.getLast?_cons_cons]

/-- The surfaces split a text alike exactly where the Studio's extra line is cut or absent. -/
theorem take_studioLines_eq_iff {text : String} (short : (splitLines text).length ≤ 10000) :
    (studioLines text).take 10000 = splitLines text ↔ SameLines text := by
  rw [studioLines, SameLines]
  rw [splitLines] at short ⊢
  split
  · rename_i empty
    rw [empty]
    exact iff_of_true rfl (.inl (by decide))
  · rename_i nonempty
    rw [if_neg nonempty] at short
    dsimp only at short ⊢
    rw [Ne, ← getLast?_splitOn (mt String.toList_eq_nil_iff.mp nonempty)]
    generalize text.toList.splitOn '\n' = lines at short ⊢
    split
    · rename_i ends
      rw [if_pos ends] at short
      obtain ⟨init, rfl⟩ := List.getLast?_eq_some_iff.mp ends
      rw [List.dropLast_concat] at short ⊢
      rw [or_iff_right (not_not.mpr ends)]
      constructor
      · intro same
        have length := congrArg List.length same
        rw [List.length_take, List.length_append, List.length_singleton] at length
        omega
      · intro length
        exact List.take_left' length
    · rename_i runsOn
      rw [if_neg runsOn] at short
      exact iff_of_true (List.take_of_length_le short) (.inl runsOn)

/-- The Studio and the server find the same script exactly where they show the same lines of both texts. -/
theorem diff_agrees_iff (a b : String) (shortLeft : (splitLines a).length ≤ 10000)
    (shortRight : (splitLines b).length ≤ 10000) :
    (diff a b).map DiffStep.pair = lcsLineDiff a b ↔ SameLines a ∧ SameLines b := by
  rw [← take_studioLines_eq_iff shortLeft, ← take_studioLines_eq_iff shortRight, diff, lcsLineDiff_eq, pairs_steps]
  constructor
  · intro same
    have fromLeft := congrArg (kept [.eq, .del]) same
    have fromRight := congrArg (kept [.eq, .add]) same
    rw [(kept_walk 0 0).1, (kept_walk 0 0).1] at fromLeft
    rw [(kept_walk 0 0).2, (kept_walk 0 0).2] at fromRight
    exact ⟨fromLeft, fromRight⟩
  · rintro ⟨sameLeft, sameRight⟩
    rw [sameLeft, sameRight]

/-- A line that repeats is kept once, one is added and one deleted. -/
theorem diff_agrees_iff_repeats :
    (diff "x\ny\nx\n\nx" "y\nx\nz\nx").map DiffStep.pair = lcsLineDiff "x\ny\nx\n\nx" "y\nx\nz\nx" := by
  have left : splitLines "x\ny\nx\n\nx" = [['x'], ['y'], ['x'], [], ['x']] := by decide
  have right : splitLines "y\nx\nz\nx" = [['y'], ['x'], ['z'], ['x']] := by decide
  refine (diff_agrees_iff "x\ny\nx\n\nx" "y\nx\nz\nx" (left ▸ by decide) (right ▸ by decide)).mpr ⟨.inl ?_, .inl ?_⟩
  · decide
  · decide

/-- The two diffs are the same for all texts of at most `MAX_LINES` lines. -/
def DiffsAgree : Prop :=
  ∀ a b : String, (splitLines a).length ≤ 10000 → (splitLines b).length ≤ 10000 →
    (diff a b).map DiffStep.pair = lcsLineDiff a b

/-- Of two equal texts that end with a newline the two surfaces show different diffs. -/
theorem newline_at_end_differs : ¬ DiffsAgree := by
  intro agree
  have lines : splitLines "x\n" = [['x']] := by decide
  have few : (splitLines "x\n").length ≤ 10000 := lines ▸ by decide
  have same := agree "x\n" "x\n" few few
  rw [lcsLineDiff_eq, diff, pairs_steps] at same
  have shown := congrArg (kept [.eq, .del]) same
  rw [(kept_walk 0 0).1, (kept_walk 0 0).1, lines] at shown
  exact absurd shown (by decide)

end LineDiff

end MqConnector
