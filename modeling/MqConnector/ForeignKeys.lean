/-
This file is a library of tables with foreign keys. It names nothing of the program: rows
with a key, references and other data, a schema of foreign keys with their actions, and the
`DELETE` statements that carry these actions out.

A schema is flat: what a delete cascades to is not referred to itself, so that one statement
reaches its children and no further.
-/

import Mathlib.Data.List.Nodup

namespace Relational

variable {Table Column Data : Type}

/-! ### Schemas and statements -/

/-- What deleting a row does to the rows that refer to it. -/
inductive OnDelete
  | restrict
  | cascade
  | setNull
  deriving DecidableEq

/-- A column of the child refers to the key of the parent. -/
structure ForeignKey (Table Column : Type) where
  child : Table
  column : Column
  parent : Table
  onDelete : OnDelete
  deriving DecidableEq

/-- Foreign keys, one for a column. -/
structure Schema (Table Column : Type) where
  foreignKeys : List (ForeignKey Table Column)
  flat : ∀ key ∈ foreignKeys, key.onDelete = .cascade → ∀ other ∈ foreignKeys, other.parent ≠ key.child
  single : ∀ key ∈ foreignKeys, ∀ other ∈ foreignKeys, key.child = other.child → key.column = other.column →
    key = other

/-- A row: its primary key, the columns that refer to other rows, and the others. -/
@[ext]
structure Row (Column Data : Type) where
  key : String
  refs : Column → Option String
  data : Data

abbrev Tables (Table Column Data : Type) :=
  Table → List (Row Column Data)

section Statements

variable [DecidableEq Table] [DecidableEq Column] (schema : Schema Table Column)
  (doomed : Table → String → Data → Bool) (tables : Tables Table Column Data)

def gone (table : Table) (key : String) : Bool :=
  (tables table).any fun row => doomed table row.key row.data && row.key = key

namespace Schema

/-- The row is deleted: its table is emptied of doomed rows, or it refers to such a row by a key
that cascades. -/
def dies (emptied : List Table) (table : Table) (row : Row Column Data) : Bool :=
  (table ∈ emptied && doomed table row.key row.data) ||
    schema.foreignKeys.any fun key =>
      key.onDelete = .cascade && key.child = table && key.parent ∈ emptied &&
        (row.refs key.column).any (gone doomed tables key.parent)

/-- The column refers to a deleted row by a key that is set to null. -/
def nulled (emptied : List Table) (table : Table) (row : Row Column Data) (column : Column) : Bool :=
  schema.foreignKeys.any fun key =>
    key.onDelete = .setNull && key.child = table && key.column = column && key.parent ∈ emptied &&
      (row.refs column).any (gone doomed tables key.parent)

def survivor (emptied : List Table) (table : Table) (row : Row Column Data) : Option (Row Column Data) :=
  if schema.dies doomed tables emptied table row then none
  else
    some { row with
      refs := fun column => if schema.nulled doomed tables emptied table row column then none else row.refs column }

def survivors (emptied : List Table) : Tables Table Column Data :=
  fun table => (tables table).filterMap (schema.survivor doomed tables emptied table)

/-- A row refers to a doomed one by a key that forbids its deletion. -/
def blocked (table : Table) : Bool :=
  schema.foreignKeys.any fun key =>
    key.onDelete = .restrict && key.parent = table &&
      (tables key.child).any fun row => (row.refs key.column).any (gone doomed tables table)

/-- `DELETE FROM table WHERE doomed`. -/
def delete (table : Table) : Option (Tables Table Column Data) :=
  if schema.blocked doomed tables table then none else some (schema.survivors doomed tables [table])

end Schema

end Statements

namespace Schema

variable [DecidableEq Table] [DecidableEq Column] (schema : Schema Table Column)
  (doomed : Table → String → Data → Bool) (runs : Table → Bool)

/-- Statements one after the other, up to the first that fails: by a key, or because it does not run. -/
def deleteAll (tables : Tables Table Column Data) : List Table → Except Table (Tables Table Column Data)
  | [] => .ok tables
  | table :: rest =>
    match runs table, schema.delete doomed tables table with
    | true, some next => deleteAll next rest
    | _, _ => .error table

/-- No table is emptied twice, or after one it cascades from. -/
def ChildrenFirst (statements : List Table) : Prop :=
  statements.Pairwise fun former latter => former ≠ latter ∧
    ∀ key ∈ schema.foreignKeys, key.onDelete = .cascade → key.parent = former → key.child ≠ latter

end Schema

/-! ### What one look says -/

theorem gone_eq_true {doomed : Table → String → Data → Bool} {tables : Tables Table Column Data}
    {table : Table}
    {key : String} : gone doomed tables table key = true ↔
    ∃ row ∈ tables table, doomed table row.key row.data = true ∧ row.key = key := by
  simp [gone]

section Facts

variable [DecidableEq Table] {schema : Schema Table Column}
  {doomed : Table → String → Data → Bool} {tables : Tables Table Column Data} {emptied : List Table}
  {table : Table} {row left : Row Column Data}

namespace Schema

theorem dies_eq_true : schema.dies doomed tables emptied table row = true ↔
    (table ∈ emptied ∧ doomed table row.key row.data = true) ∨
      ∃ key ∈ schema.foreignKeys, key.onDelete = .cascade ∧ key.child = table ∧ key.parent ∈ emptied ∧
        ∃ target, row.refs key.column = some target ∧ gone doomed tables key.parent target = true := by
  simp [dies, Option.any_eq_true, and_assoc]

theorem blocked_eq_true : schema.blocked doomed tables table = true ↔
    ∃ key ∈ schema.foreignKeys, key.onDelete = .restrict ∧ key.parent = table ∧
      ∃ row ∈ tables key.child, ∃ target, row.refs key.column = some target ∧
        gone doomed tables table target = true := by
  simp [blocked, Option.any_eq_true, and_assoc]

variable [DecidableEq Column]

theorem nulled_eq_true {column : Column} : schema.nulled doomed tables emptied table row column = true ↔
    ∃ key ∈ schema.foreignKeys, key.onDelete = .setNull ∧ key.child = table ∧ key.column = column ∧
      key.parent ∈ emptied ∧ ∃ target, row.refs column = some target ∧
        gone doomed tables key.parent target = true := by
  simp [nulled, Option.any_eq_true, and_assoc]

theorem survivor_of_dead (dead : schema.dies doomed tables emptied table row = true) :
    schema.survivor doomed tables emptied table row = none :=
  if_pos dead

theorem exists_survivor (alive : schema.dies doomed tables emptied table row = false) :
    ∃ left, schema.survivor doomed tables emptied table row = some left ∧ left.key = row.key ∧
      left.data = row.data ∧ ∀ column, left.refs column =
        if schema.nulled doomed tables emptied table row column then none else row.refs column :=
  ⟨_, if_neg (Bool.eq_false_iff.mp alive), rfl, rfl, fun _ => rfl⟩

theorem survivor_eq_none : schema.survivor doomed tables emptied table row = none ↔
    schema.dies doomed tables emptied table row = true := by
  refine ⟨fun nothing => ?_, survivor_of_dead⟩
  by_contra alive
  obtain ⟨left, survives, -⟩ := exists_survivor (Bool.eq_false_iff.mpr alive)
  exact Option.some_ne_none left (survives.symm.trans nothing)

theorem survivor_eq_some : schema.survivor doomed tables emptied table row = some left ↔
    schema.dies doomed tables emptied table row = false ∧ left.key = row.key ∧ left.data = row.data ∧
      ∀ column, left.refs column =
        if schema.nulled doomed tables emptied table row column then none else row.refs column := by
  by_cases dead : schema.dies doomed tables emptied table row = true
  · rw [survivor_of_dead dead]
    exact iff_of_false (Option.some_ne_none left).symm fun holds => Bool.false_ne_true (holds.1.symm.trans dead)
  · have alive := Bool.eq_false_iff.mpr dead
    obtain ⟨kept, survives, keys, data, refs⟩ := exists_survivor alive
    rw [survives, Option.some_inj]
    constructor
    · rintro rfl
      exact ⟨alive, keys, data, refs⟩
    · rintro ⟨-, key, same, columns⟩
      exact Row.ext (keys.trans key.symm) (funext fun column => (refs column).trans (columns column).symm)
        (data.trans same.symm)

theorem mem_survivors : left ∈ schema.survivors doomed tables emptied table ↔
    ∃ row ∈ tables table, schema.survivor doomed tables emptied table row = some left :=
  List.mem_filterMap

theorem refs_of_survivor {column : Column} {target : String}
    (survives : schema.survivor doomed tables emptied table row = some left)
    (refers : left.refs column = some target) : row.refs column = some target := by
  obtain ⟨-, -, -, refs⟩ := survivor_eq_some.mp survives
  rw [refs column] at refers
  split at refers
  · cases refers
  · exact refers

@[simp]
theorem survivors_nil : schema.survivors doomed tables [] = tables := by
  funext table
  refine (List.filterMap_congr fun row _ => ?_).trans List.filterMap_some
  refine survivor_eq_some.mpr ⟨Bool.eq_false_iff.mpr ?_, rfl, rfl, fun column => (if_neg ?_).symm⟩
  · simp [dies_eq_true]
  · simp [nulled_eq_true]

end Schema

end Facts

/-! ### A list of statements -/

section Lists

variable [DecidableEq Table] [DecidableEq Column] {schema : Schema Table Column}
  {doomed : Table → String → Data → Bool} {tables : Tables Table Column Data} {emptied : List Table}
  {last : Table}

namespace Schema

theorem gone_survivors (fresh : last ∉ emptied)
    (uncascaded : ∀ key ∈ schema.foreignKeys, key.onDelete = .cascade → key.parent ∈ emptied → key.child ≠ last) :
    gone doomed (schema.survivors doomed tables emptied) last = gone doomed tables last := by
  funext key
  rw [Bool.eq_iff_iff, gone_eq_true, gone_eq_true]
  constructor
  · rintro ⟨left, member, dead, same⟩
    obtain ⟨row, among, survives⟩ := mem_survivors.mp member
    obtain ⟨-, keys, data, -⟩ := survivor_eq_some.mp survives
    exact ⟨row, among, keys ▸ data ▸ dead, keys ▸ same⟩
  · rintro ⟨row, among, dead, same⟩
    have alive : schema.dies doomed tables emptied last row = false := by
      rw [Bool.eq_false_iff, Ne, dies_eq_true]
      rintro (⟨member, -⟩ | ⟨key, known, cascades, child, parent, -⟩)
      · exact fresh member
      · exact uncascaded key known cascades parent child
    obtain ⟨left, survives, keys, data, -⟩ := exists_survivor alive
    refine ⟨left, mem_survivors.mpr ⟨row, among, survives⟩, ?_, keys.trans same⟩
    rw [keys, data, dead]

variable {table : Table} {row left : Row Column Data}

theorem refs_of_not_setNull {key : ForeignKey Table Column} (known : key ∈ schema.foreignKeys)
    (other : key.onDelete ≠ .setNull) (child : key.child = table)
    (survives : schema.survivor doomed tables emptied table row = some left) :
    left.refs key.column = row.refs key.column := by
  obtain ⟨-, -, -, refs⟩ := survivor_eq_some.mp survives
  rw [refs, if_neg]
  rw [nulled_eq_true]
  rintro ⟨found, member, sets, childToo, column, -⟩
  exact other (schema.single key known found member (child.trans childToo.symm) column.symm ▸ sets)

theorem dies_append (alive : schema.survivor doomed tables emptied table row = some left)
    (same : gone doomed (schema.survivors doomed tables emptied) last = gone doomed tables last) :
    schema.dies doomed (schema.survivors doomed tables emptied) [last] table left =
      schema.dies doomed tables (emptied ++ [last]) table row := by
  obtain ⟨lives, keys, data, -⟩ := survivor_eq_some.mp alive
  rw [Bool.eq_false_iff, Ne, dies_eq_true] at lives
  push Not at lives
  rw [Bool.eq_iff_iff, dies_eq_true, dies_eq_true, keys, data]
  constructor
  · rintro (⟨here, dead⟩ | ⟨key, known, cascades, child, parent, target, refers, dead⟩)
    · exact Or.inl ⟨List.mem_append_right _ here, dead⟩
    · obtain rfl := List.mem_singleton.mp parent
      exact Or.inr ⟨key, known, cascades, child, List.mem_append_right _ parent, target,
        refs_of_survivor alive refers, same ▸ dead⟩
  · rintro (⟨here, dead⟩ | ⟨key, known, cascades, child, parent, target, refers, dead⟩)
    · rcases List.mem_append.mp here with early | now
      · exact absurd dead (lives.1 early)
      · exact Or.inl ⟨now, dead⟩
    · rcases List.mem_append.mp parent with early | now
      · exact absurd dead (lives.2 key known cascades child early target refers)
      · refine Or.inr ⟨key, known, cascades, child, now, target, ?_, ?_⟩
        · rw [refs_of_not_setNull known (by rw [cascades]; decide) child alive, refers]
        · obtain rfl := List.mem_singleton.mp now
          rw [same, dead]

theorem refs_append (alive : schema.survivor doomed tables emptied table row = some left)
    (same : gone doomed (schema.survivors doomed tables emptied) last = gone doomed tables last)
    (column : Column) :
    (if schema.nulled doomed (schema.survivors doomed tables emptied) [last] table left column then none
      else left.refs column) =
      if schema.nulled doomed tables (emptied ++ [last]) table row column then none else row.refs column := by
  obtain ⟨-, -, -, refs⟩ := survivor_eq_some.mp alive
  have refs := refs column
  by_cases early : schema.nulled doomed tables emptied table row column = true
  · rw [if_pos early] at refs
    have late : schema.nulled doomed tables (emptied ++ [last]) table row column = true := by
      obtain ⟨key, known, sets, child, here, parent, found⟩ := nulled_eq_true.mp early
      exact nulled_eq_true.mpr ⟨key, known, sets, child, here, List.mem_append_left _ parent, found⟩
    rw [refs, if_pos late, ite_self]
  · rw [if_neg early] at refs
    rw [refs]
    refine if_congr ?_ rfl rfl
    rw [nulled_eq_true, nulled_eq_true, refs]
    constructor
    · rintro ⟨key, known, sets, child, here, parent, target, refers, dead⟩
      obtain rfl := List.mem_singleton.mp parent
      exact ⟨key, known, sets, child, here, List.mem_append_right _ parent, target, refers, same ▸ dead⟩
    · rintro ⟨key, known, sets, child, here, parent, target, refers, dead⟩
      rcases List.mem_append.mp parent with before | now
      · exact absurd (nulled_eq_true.mpr ⟨key, known, sets, child, here, before, target, refers, dead⟩) early
      · refine ⟨key, known, sets, child, here, now, target, refers, ?_⟩
        obtain rfl := List.mem_singleton.mp now
        rw [same, dead]

theorem survivors_append (fresh : last ∉ emptied)
    (uncascaded : ∀ key ∈ schema.foreignKeys, key.onDelete = .cascade → key.parent ∈ emptied → key.child ≠ last) :
    schema.survivors doomed (schema.survivors doomed tables emptied) [last] =
      schema.survivors doomed tables (emptied ++ [last]) := by
  have same := @gone_survivors _ _ _ _ _ schema doomed tables emptied last fresh uncascaded
  funext table
  refine (List.filterMap_filterMap ..).trans (List.filterMap_congr fun row _ => ?_)
  rcases survives : schema.survivor doomed tables emptied table row with _ | left
  · rw [Option.bind_none, eq_comm, survivor_eq_none]
    rw [survivor_eq_none, dies_eq_true] at survives
    rw [dies_eq_true]
    rcases survives with ⟨here, dead⟩ | ⟨key, known, cascades, child, parent, found⟩
    · exact Or.inl ⟨List.mem_append_left _ here, dead⟩
    · exact Or.inr ⟨key, known, cascades, child, List.mem_append_left _ parent, found⟩
  · rw [Option.bind_some]
    obtain ⟨-, keys, data, -⟩ := survivor_eq_some.mp survives
    refine Option.ext fun kept => ?_
    rw [survivor_eq_some, survivor_eq_some, dies_append survives same, keys, data]
    refine and_congr_right fun _ => and_congr_right fun _ => and_congr_right fun _ => forall_congr' fun column => ?_
    rw [refs_append survives same]

theorem deleteAll_eq_ok {runs : Table → Bool} {statements : List Table} {after : Tables Table Column Data}
    (ordered : schema.ChildrenFirst (emptied ++ statements)) :
    schema.deleteAll doomed runs (schema.survivors doomed tables emptied) statements = .ok after ↔
      (∀ table ∈ statements, runs table = true) ∧
      (∀ table ∈ statements, schema.blocked doomed
        (schema.survivors doomed tables (emptied ++ statements.takeWhile (· ≠ table))) table = false) ∧
      after = schema.survivors doomed tables (emptied ++ statements) := by
  induction statements generalizing emptied with
  | nil =>
    rw [deleteAll, Except.ok.injEq, List.append_nil]
    exact ⟨fun same => ⟨by simp, by simp, same.symm⟩, fun holds => holds.2.2.symm⟩
  | cons table rest hypothesis =>
    have next : schema.ChildrenFirst (emptied ++ [table] ++ rest) := by
      rw [List.append_assoc]
      exact ordered
    obtain ⟨-, later, before⟩ := List.pairwise_append.mp ordered
    have joined := @survivors_append _ _ _ _ _ schema doomed tables emptied table
      (fun member => (before table member table List.mem_cons_self).1 rfl)
      fun key known cascades parent => (before key.parent parent table List.mem_cons_self).2 key known cascades rfl
    rw [deleteAll, delete]
    by_cases blocks : schema.blocked doomed (schema.survivors doomed tables emptied) table = true
    · rw [if_pos blocks]
      refine iff_of_false (by cases runs table <;> exact fun absurd => by cases absurd) fun holds => ?_
      have free := holds.2.1 table List.mem_cons_self
      rw [List.takeWhile_cons_of_neg (by simp), List.append_nil, blocks] at free
      cases free
    · rw [if_neg blocks, joined]
      cases executed : runs table with
      | false =>
        refine iff_of_false (fun absurd => by cases absurd) fun holds => ?_
        exact absurd (holds.1 table List.mem_cons_self) (by rw [executed]; decide)
      | true =>
        dsimp only
        rw [hypothesis next, List.append_assoc, List.singleton_append]
        refine and_congr ?_ (and_congr ?_ Iff.rfl)
        · rw [List.forall_mem_cons]
          exact (and_iff_right executed).symm
        · rw [List.forall_mem_cons, List.takeWhile_cons_of_neg (by simp), List.append_nil]
          refine Iff.trans ?_ (and_iff_right (Bool.eq_false_iff.mpr blocks)).symm
          refine forall₂_congr fun other member => ?_
          have different : table ≠ other := (List.rel_of_pairwise_cons later member).1
          rw [List.takeWhile_cons_of_pos (by simpa using different), List.append_assoc, List.singleton_append]

end Schema

end Lists

end Relational
