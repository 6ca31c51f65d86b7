/-
This file develops the edits of shared maps along paths of keys.

An edit changes the last map on the way that is there, its container. Where the container is
reached on one way, and what is stored does not reach it, the edit is the one of the value
that is read. What a cell unfolds to grows by what is stored, wherever the container stands.
-/

import Mathlib.Algebra.GroupWithZero.Nat
import Mathlib.Algebra.Order.BigOperators.Group.List
import Mathlib.Algebra.Order.Group.Nat
import MqConnector.SharedMaps

namespace SharedMaps

open NestedMaps

variable {Key Leaf Value : Type}

/-! ### Edits along paths -/

def Memory.entriesAt (memory : Memory Key Leaf) (address : Nat) : List (Key × Cell Leaf) :=
  (memory.maps[address]?).getD []

section Walkers

variable [DecidableEq Key]

/-- The map that an edit along a path changes: the last one on the way that is there. -/
def Memory.container (memory : Memory Key Leaf) : List Key → Nat → Nat
  | key :: next :: rest, address =>
    match (memory.entriesAt address).lookup key with
    | some (.map child) => memory.container (next :: rest) child
    | _ => address
  | _, address => address

def Memory.link (memory : Memory Key Leaf) (address : Nat) (key : Key) : Memory Key Leaf :=
  memory.alloc.modify address (put key (.map memory.maps.length)) (nodup_put key _)

/-- Set what is held at the end of a path, with new maps on the way where there is nothing. -/
def Memory.setFrom (held : Cell Leaf) : List Key → Nat → Memory Key Leaf → Option (Memory Key Leaf)
  | [], _, memory => some memory
  | [key], address, memory => some (memory.modify address (put key held) (nodup_put key held))
  | key :: next :: rest, address, memory =>
    match (memory.entriesAt address).lookup key with
    | none => Memory.setFrom held (next :: rest) memory.maps.length (memory.link address key)
    | some (.map child) => Memory.setFrom held (next :: rest) child memory
    | some (.leaf _) => none

/-- Delete what is held at the end of a path. -/
def Memory.deleteFrom : List Key → Nat → Memory Key Leaf → Memory Key Leaf
  | [], _, memory => memory
  | [key], address, memory => memory.modify address (erase key) (nodup_erase key)
  | key :: next :: rest, address, memory =>
    match (memory.entriesAt address).lookup key with
    | some (.map child) => Memory.deleteFrom (next :: rest) child memory
    | _ => memory

variable {view : View Key Value} {leaf : Leaf → Value} {memory edited : Memory Key Leaf} {depth address : Nat}
  {cell held : Cell Leaf} {value : Value} {keys : List Key} {key : Key} {entries : List (Key × Cell Leaf)}
  {listed : List (Key × Value)}

omit [DecidableEq Key] in
theorem entriesAt_eq (found : memory.maps[address]? = some entries) : memory.entriesAt address = entries := by
  rw [Memory.entriesAt, found]
  rfl

theorem follow_map_entriesAt (rest : List Key) : memory.follow (key :: rest) (.map address) =
    ((memory.entriesAt address).lookup key).bind (memory.follow rest) := by
  rw [Memory.entriesAt, Memory.follow]
  cases memory.maps[address]? with
  | none => rfl
  | some entries => rfl

theorem reaches_container (keys : List Key) (address : Nat) :
    memory.Reaches (.map address) (memory.container keys address) := by
  induction keys generalizing address with
  | nil => exact reaches_self address
  | cons key rest hypothesis =>
    cases rest with
    | nil => exact reaches_self address
    | cons next rest =>
      rw [Memory.container]
      split
      case h_1 child looked =>
        obtain ⟨path, leads⟩ := hypothesis child
        refine ⟨key :: path, ?_⟩
        rw [follow_map_entriesAt, looked]
        exact leads
      case h_2 => exact reaches_self address

/-- A new map is linked into its place. -/
theorem link_fresh (present : memory.maps[address]? = some entries) :
    (memory.link address key).maps[memory.maps.length]? = some [] := by
  have differ : memory.maps.length ≠ address := (List.getElem?_eq_some_iff.mp present).1.ne'
  exact (modify_of_ne differ).trans alloc_fresh

theorem link_self (present : memory.maps[address]? = some entries) :
    (memory.link address key).maps[address]? = some (put key (.map memory.maps.length) entries) :=
  modify_self (alloc_of_some present)

/-- A link changes the map of its place alone. -/
theorem keeps_link : Keeps memory address (memory.link address key) :=
  keeps_alloc.trans keeps_modify

theorem container_of_empty (empty : memory.maps[address]? = some []) :
    memory.container keys address = address := by
  match keys with
  | [] | [_] => rfl
  | key :: next :: rest =>
    rw [Memory.container, entriesAt_eq empty]
    rfl

omit [DecidableEq Key] in
theorem readTo_empty (empty : memory.maps[address]? = some []) :
    memory.readTo view leaf (depth + 1) (.map address) = some (view.node []) :=
  readTo_map.mpr ⟨[], [], empty, rfl, .nil⟩

/-- An edit keeps them too. -/
theorem keeps_setFrom (reads : memory.readTo view leaf depth (.map address) = some value)
    (done : memory.setFrom held keys address = some edited) :
    Keeps memory (memory.container keys address) edited := by
  induction keys generalizing memory address depth value with
  | nil =>
    obtain rfl := Option.some.inj done
    exact fun _ _ _ found => found
  | cons key rest hypothesis =>
    cases rest with
    | nil =>
      obtain rfl := Option.some.inj done
      exact keeps_modify
    | cons next rest =>
      cases depth with
      | zero => cases reads
      | succ depth =>
        obtain ⟨entries, listed, present, rfl, all⟩ := readTo_map.mp reads
        rw [Memory.setFrom, entriesAt_eq present] at done
        rw [Memory.container, entriesAt_eq present]
        cases looked : entries.lookup key with
        | none =>
          rw [looked] at done
          have empty := @link_fresh _ _ _ _ _ key _ present
          have reads : (memory.link address key).readTo view leaf 1 (.map memory.maps.length) = some (view.node []) :=
            readTo_empty empty
          have below := hypothesis reads done
          rw [container_of_empty empty] at below
          intro other differ held found
          refine below other ?_ held (keeps_link other differ held found)
          exact (List.getElem?_eq_some_iff.mp found).1.ne
        | some child =>
          rw [looked] at done
          cases child with
          | leaf held => cases done
          | map child =>
            obtain ⟨field, -, -, read⟩ := exists_of_forall₂ all (mem_of_lookup looked)
            exact hypothesis read done

/-! #### What an edit makes of what is read -/

section Lists

variable {Entry Field : Type} {matched : Entry → Field → Prop} {held : Entry} {value : Field}
  {entries : List (Key × Entry)} {listed : List (Key × Field)}

variable (matched) in
theorem forall₂_lookup
    (all : List.Forall₂ (fun entry field => entry.1 = field.1 ∧ matched entry.2 field.2) entries listed)
    (key : Key) : Option.Rel matched (entries.lookup key) (listed.lookup key) := by
  induction all with
  | nil => exact .none
  | @cons entry field rest fields both _ hypothesis =>
    rw [lookup_cons, lookup_cons, both.1]
    split
    · exact .some both.2
    · exact hypothesis

variable (matched) in
theorem forall₂_put (distinct : (entries.map Prod.fst).Nodup)
    (all : List.Forall₂ (fun entry field => entry.1 = field.1 ∧ (entry.1 ≠ key → matched entry.2 field.2)) entries listed)
    (stored : matched held value) :
    List.Forall₂ (fun entry field => entry.1 = field.1 ∧ matched entry.2 field.2) (put key held entries)
      (put key value listed) := by
  induction all with
  | nil => exact .cons ⟨rfl, stored⟩ .nil
  | @cons entry field rest fields both others hypothesis =>
    obtain ⟨absent, distinct⟩ := List.nodup_cons.mp distinct
    rw [put_cons, put_cons, both.1]
    split
    case isTrue same =>
      refine .cons ⟨rfl, stored⟩ (forall₂_imp_mem others fun other member field inner => ⟨inner.1, inner.2 ?_⟩)
      intro again
      refine absent ?_
      rw [both.1, same, ← again]
      exact List.mem_map_of_mem member
    case isFalse differ => exact .cons ⟨both.1, both.2 (both.1 ▸ differ)⟩ (hypothesis distinct)

variable (matched) in
theorem forall₂_erase
    (all : List.Forall₂ (fun entry field => entry.1 = field.1 ∧ matched entry.2 field.2) entries listed) (key : Key) :
    List.Forall₂ (fun entry field => entry.1 = field.1 ∧ matched entry.2 field.2) (erase key entries)
      (erase key listed) := by
  induction all with
  | nil => exact .nil
  | @cons entry field rest fields both _ hypothesis =>
    rw [erase_cons, erase_cons, both.1]
    split
    · exact hypothesis
    · exact .cons both hypothesis

end Lists

/-- A map is reached from a cell on one way at most. -/
def Memory.Sole (memory : Memory Key Leaf) (cell : Cell Leaf) (address : Nat) : Prop :=
  ∀ path other, memory.follow path cell = some (.map address) → memory.follow other cell = some (.map address) →
    path = other

section Sole

variable {target child : Nat}

theorem Memory.Sole.below (sole : memory.Sole (.map address) target)
    (looked : (memory.entriesAt address).lookup key = some cell) : memory.Sole cell target := by
  intro path other first second
  have whole (path : List Key) : memory.follow (key :: path) (.map address) = memory.follow path cell := by
    rw [follow_map_entriesAt, looked]
    rfl
  exact (List.cons.inj (sole _ _ ((whole path).trans first) ((whole other).trans second))).2

theorem Memory.Sole.not_reaches (sole : memory.Sole (.map address) target)
    (looked : (memory.entriesAt address).lookup key = some cell) (reached : memory.Reaches cell target) {other : Key}
    (differ : other ≠ key) (beside : (memory.entriesAt address).lookup other = some held) :
    ¬ memory.Reaches held target := by
  rintro ⟨second, leadsOther⟩
  obtain ⟨first, leads⟩ := reached
  have same := sole (key :: first) (other :: second) (by rw [follow_map_entriesAt, looked]; exact leads)
    (by rw [follow_map_entriesAt, beside]; exact leadsOther)
  exact differ (List.cons.inj same).1.symm

theorem Memory.Sole.ne (sole : memory.Sole (.map address) target)
    (looked : (memory.entriesAt address).lookup key = some cell) (reached : memory.Reaches cell target) :
    address ≠ target := by
  rintro rfl
  obtain ⟨path, leads⟩ := reached
  have same := sole [] (key :: path) rfl (by rw [follow_map_entriesAt, looked]; exact leads)
  cases same

theorem eq_nil_of_empty (empty : memory.maps[address]? = some []) {path : List Key}
    (leads : memory.follow path (.map address) = some cell) : path = [] := by
  cases path with
  | nil => rfl
  | cons key path =>
    rw [follow_map empty] at leads
    cases leads

theorem sole_self (done : memory.readTo view leaf depth (.map address) = some value) :
    memory.Sole (.map address) address := by
  have empty {path : List Key} (leads : memory.follow path (.map address) = some (.map address)) : path = [] := by
    cases path with
    | nil => rfl
    | cons key path => exact absurd leads (not_follow_self done)
  exact fun _ _ first second => (empty first).trans (empty second).symm

theorem sole_of_empty (empty : memory.maps[address]? = some []) : memory.Sole (.map address) address :=
  fun _ _ first second => (eq_nil_of_empty empty first).trans (eq_nil_of_empty empty second).symm

end Sole

variable (plain : ∀ held, view.entries (leaf held) = none)

/-- Whether a reading of an edited memory is the edit of the reading. -/
def Matches (view : View Key Value) (leaf : Leaf → Value) (address : Nat) :
    Option (Memory Key Leaf) → Option (List (Key × Value)) → Prop
  | some edited, some fields => ∃ depth, edited.readTo view leaf depth (.map address) = some (view.node fields)
  | none, none => True
  | _, _ => False

/-- What is read after an edit of one map. -/
theorem readTo_put (present : memory.maps[address]? = some entries)
    (all : List.Forall₂ (fun entry field => entry.1 = field.1 ∧
      (entry.1 ≠ key → edited.readTo view leaf depth entry.2 = some field.2)) entries listed)
    (stored : edited.readTo view leaf depth held = some value)
    (changed : edited.maps[address]? = some (put key held entries)) :
    edited.readTo view leaf (depth + 1) (.map address) = some (view.node (put key value listed)) :=
  readTo_map.mpr ⟨_, _, changed, rfl, forall₂_put (fun cell value => edited.readTo view leaf depth cell = some value)
    (memory.distinct_of present) all stored⟩

omit [DecidableEq Key] in
theorem entries_of_reads
    (reads : memory.readTo view leaf (depth + 1) (.map address) = some (view.node listed)) :
    ∃ entries, memory.maps[address]? = some entries ∧ List.Forall₂ (fun entry field => entry.1 = field.1 ∧
      memory.readTo view leaf depth entry.2 = some field.2) entries listed := by
  obtain ⟨entries, fields, present, same, all⟩ := readTo_map.mp reads
  have opened : some listed = some fields := by
    rw [← view.entries_node listed, ← view.entries_node fields, same]
  obtain rfl := Option.some.inj opened
  exact ⟨entries, present, all⟩

theorem lookup_reads (reads : memory.readTo view leaf depth (.map address) = some (view.node listed))
    (key : Key) :
    ((memory.entriesAt address).lookup key = none ∧ listed.lookup key = none) ∨
    (∃ held, (memory.entriesAt address).lookup key = some (.leaf held) ∧ listed.lookup key = some (leaf held)) ∨
    ∃ child inner, (memory.entriesAt address).lookup key = some (.map child) ∧
      listed.lookup key = some (view.node inner) ∧
      memory.readTo view leaf depth (.map child) = some (view.node inner) := by
  cases depth with
  | zero => cases reads
  | succ depth =>
    obtain ⟨entries, present, all⟩ := entries_of_reads reads
    have lookups := forall₂_lookup (fun cell value => memory.readTo view leaf depth cell = some value) all key
    rw [entriesAt_eq present]
    generalize entries.lookup key = held at lookups
    generalize listed.lookup key = value at lookups
    cases lookups with
    | none => exact Or.inl ⟨rfl, rfl⟩
    | @some cell value read =>
      cases cell with
      | leaf held =>
        obtain rfl := Option.some.inj ((readTo_leaf held).symm.trans read)
        exact Or.inr (Or.inl ⟨held, rfl, rfl⟩)
      | map child =>
        have deep := readTo_mono (Nat.le_succ depth) read
        obtain ⟨-, inner, -, rfl, -⟩ := readTo_map.mp deep
        exact Or.inr (Or.inr ⟨child, inner, rfl, rfl, deep⟩)

def Memory.ReadsAs (view : View Key Value) (leaf : Leaf → Value) (memory : Memory Key Leaf) (cell : Cell Leaf)
    (value : Value) : Prop :=
  ∃ depth, memory.readTo view leaf depth cell = some value

include plain in
theorem follow_reads (keys : List Key) (nonempty : keys ≠ [])
    (reads : memory.readTo view leaf depth (.map address) = some (view.node listed)) :
    Option.Rel (memory.ReadsAs view leaf) (memory.follow keys (.map address)) (view.get keys listed) := by
  induction keys generalizing address listed with
  | nil => exact absurd rfl nonempty
  | cons key rest hypothesis =>
    rw [follow_map_entriesAt]
    rcases lookup_reads reads key with ⟨looked, found⟩ | ⟨held, looked, found⟩ | ⟨child, inner, looked, found, read⟩
    · rw [looked]
      cases rest with
      | nil =>
        rw [View.get, found]
        exact .none
      | cons next rest =>
        rw [View.get, found]
        exact .none
    · rw [looked]
      cases rest with
      | nil =>
        rw [View.get, found]
        exact .some ⟨0, readTo_leaf held⟩
      | cons next rest =>
        rw [View.get, found, Option.bind_some, Option.bind_some, plain]
        exact .none
    · rw [looked]
      cases rest with
      | nil =>
        rw [View.get, found]
        exact .some ⟨depth, read⟩
      | cons next rest =>
        rw [View.get, found, Option.bind_some, Option.bind_some, view.entries_node]
        exact hypothesis (List.cons_ne_nil _ _) read

/-- An edit below one entry is the edit of what is read there. -/
theorem reads_of_child {child other : Nat} {fields : List (Key × Value)}
    (reads : memory.readTo view leaf depth (.map address) = some (view.node listed))
    (looked : (memory.entriesAt address).lookup key = some (.map child)) (sole : memory.Sole (.map address) target)
    (reached : memory.Reaches (.map child) target) (keeps : Keeps memory target edited)
    (below : edited.readTo view leaf other (.map child) = some (view.node fields)) :
    ∃ depth, edited.readTo view leaf depth (.map address) = some (view.node (put key (view.node fields) listed)) := by
  cases depth with
  | zero => cases reads
  | succ depth =>
    obtain ⟨entries, present, all⟩ := entries_of_reads reads
    have kept : edited.maps[address]? = some (put key (.map child) entries) := by
      rw [put_of_lookup (entriesAt_eq present ▸ looked)]
      exact keeps address (sole.ne looked reached) _ present
    refine ⟨max other depth + 1, readTo_put present (forall₂_imp_mem all fun entry member field both => ?_)
      (readTo_mono (Nat.le_max_left other depth) below) kept⟩
    refine ⟨both.1, fun differ => readTo_mono (Nat.le_max_right other depth) (keeps.readTo both.2 ?_)⟩
    refine sole.not_reaches looked reached differ ?_
    rw [entriesAt_eq present]
    exact lookup_eq_some_of_mem (memory.distinct_of present) member

include plain in
/-- An edit whose map is reached in one way only is the edit of the tree. -/
theorem setFrom_reads (keys : List Key)
    (reads : memory.readTo view leaf depth (.map address) = some (view.node listed))
    (valued : memory.readTo view leaf depth held = some value)
    (sole : memory.Sole (.map address) (memory.container keys address))
    (apart : ¬ memory.Reaches held (memory.container keys address)) :
    Matches view leaf address (memory.setFrom held keys address) (view.set keys value listed) := by
  induction keys generalizing memory address listed depth with
  | nil => exact ⟨depth, reads⟩
  | cons key rest hypothesis =>
    cases depth with
    | zero => cases reads
    | succ depth =>
      obtain ⟨entries, present, all⟩ := entries_of_reads reads
      have unreached (entry : Key × Cell Leaf) (member : entry ∈ entries) : ¬ memory.Reaches entry.2 address :=
        not_reaches_of_entry reads present member
      cases rest with
      | nil =>
        have stored := (@keeps_modify _ _ memory address _ (nodup_put key held)).readTo valued apart
        refine ⟨depth + 2, readTo_put present (forall₂_imp_mem all fun entry member field both => ?_) stored
          (modify_self present)⟩
        exact ⟨both.1, fun _ => keeps_modify.readTo (readTo_mono (Nat.le_succ depth) both.2) (unreached entry member)⟩
      | cons next rest =>
        rw [Memory.container] at sole apart
        rw [Memory.setFrom, View.set]
        rcases lookup_reads reads key with ⟨looked, found⟩ | ⟨other, looked, found⟩ | ⟨child, inner, looked, found, deep⟩
        · rw [looked] at sole apart ⊢
          rw [found]
          dsimp only at sole apart ⊢
          have empty := @link_fresh _ _ _ _ _ key _ present
          have fresh : (memory.link address key).readTo view leaf (depth + 1) (.map memory.maps.length) =
              some (view.node []) := readTo_empty empty
          have single : (memory.link address key).Sole (.map memory.maps.length)
              ((memory.link address key).container (next :: rest) memory.maps.length) := by
            rw [container_of_empty empty]
            exact sole_of_empty empty
          have absent : ¬ (memory.link address key).Reaches held
              ((memory.link address key).container (next :: rest) memory.maps.length) := by
            rw [container_of_empty empty]
            exact keeps_link.not_reaches valued apart (not_reaches_fresh valued)
          have below := hypothesis fresh (keeps_link.readTo valued apart) single absent
          obtain ⟨inner, set⟩ := view.set_empty (next :: rest) value
          rw [set] at below ⊢
          cases result : (memory.link address key).setFrom held (next :: rest) memory.maps.length with
          | none =>
            rw [result] at below
            exact below
          | some edited =>
            rw [result] at below
            obtain ⟨other, below⟩ := below
            have keeps := keeps_setFrom fresh result
            rw [container_of_empty empty] at keeps
            have differ : address ≠ memory.maps.length := (List.getElem?_eq_some_iff.mp present).1.ne
            refine ⟨max other depth + 1, readTo_put present (forall₂_imp_mem all fun entry member field both => ?_)
              (readTo_mono (Nat.le_max_left other depth) below) (keeps address differ _ (link_self present))⟩
            refine ⟨both.1, fun _ => readTo_mono (Nat.le_max_right other depth) ?_⟩
            have apart := unreached entry member
            exact keeps.readTo (keeps_link.readTo both.2 apart)
              (keeps_link.not_reaches both.2 apart (not_reaches_fresh both.2))
        · rw [looked, found]
          dsimp only
          rw [plain]
          trivial
        · rw [looked] at sole apart ⊢
          rw [found]
          dsimp only at sole apart ⊢
          have below := hypothesis deep valued (sole.below looked) apart
          rw [view.entries_node, Option.bind_some]
          cases result : memory.setFrom held (next :: rest) child with
          | none =>
            rw [result] at below
            cases done : view.set (next :: rest) value inner with
            | none => trivial
            | some fields =>
              rw [done] at below
              exact below
          | some edited =>
            rw [result] at below
            cases done : view.set (next :: rest) value inner with
            | none =>
              rw [done] at below
              exact below
            | some fields =>
              rw [done] at below
              obtain ⟨other, below⟩ := below
              exact reads_of_child reads looked sole (reaches_container (next :: rest) child) (keeps_setFrom deep result) below

theorem keeps_deleteFrom (keys : List Key) (address : Nat) :
    Keeps memory (memory.container keys address) (memory.deleteFrom keys address) := by
  induction keys generalizing address with
  | nil => exact fun _ _ _ found => found
  | cons key rest hypothesis =>
    cases rest with
    | nil => exact keeps_modify
    | cons next rest =>
      rw [Memory.container, Memory.deleteFrom]
      split
      case h_1 child looked => exact hypothesis child
      case h_2 => exact fun _ _ _ found => found

include plain in
/-- A deletion whose map is reached in one way only is the deletion of the tree. -/
theorem deleteFrom_reads (keys : List Key)
    (reads : memory.readTo view leaf depth (.map address) = some (view.node listed))
    (sole : memory.Sole (.map address) (memory.container keys address)) :
    ∃ depth, (memory.deleteFrom keys address).readTo view leaf depth (.map address) =
      some (view.node (view.delete keys listed)) := by
  induction keys generalizing address listed depth with
  | nil => exact ⟨depth, reads⟩
  | cons key rest hypothesis =>
    cases rest with
    | nil =>
      cases depth with
      | zero => cases reads
      | succ depth =>
        obtain ⟨entries, present, all⟩ := entries_of_reads reads
        refine ⟨depth + 1, readTo_map.mpr ⟨_, _, modify_self present, rfl, ?_⟩⟩
        refine forall₂_erase (fun cell value => Memory.readTo view leaf _ depth cell = some value) ?_ key
        exact forall₂_imp_mem all fun entry member field both =>
          ⟨both.1, keeps_modify.readTo both.2 (not_reaches_of_entry reads present member)⟩
    | cons next rest =>
      rw [Memory.container] at sole
      rw [Memory.deleteFrom, View.delete]
      rcases lookup_reads reads key with ⟨looked, found⟩ | ⟨held, looked, found⟩ | ⟨child, inner, looked, found, deep⟩
      · rw [looked, found]
        exact ⟨depth, reads⟩
      · rw [looked, found, Option.bind_some, plain]
        exact ⟨depth, reads⟩
      · rw [looked] at sole ⊢
        rw [found, Option.bind_some, view.entries_node]
        dsimp only at sole ⊢
        obtain ⟨other, below⟩ := hypothesis deep (sole.below looked)
        exact reads_of_child reads looked sole (reaches_container (next :: rest) child) (keeps_deleteFrom (next :: rest) child) below

/-! #### Reading still ends -/

omit [DecidableEq Key] in
theorem Keeps.ends (keeps : Keeps memory address edited) (here : edited.Ends view leaf (.map address))
    (ends : memory.Ends view leaf cell) : edited.Ends view leaf cell := by
  obtain ⟨depth, value, done⟩ := ends
  induction depth generalizing cell value with
  | zero =>
    cases cell with
    | leaf held => exact ⟨0, leaf held, readTo_leaf held⟩
    | map other => cases done
  | succ depth hypothesis =>
    cases cell with
    | leaf held => exact ⟨0, leaf held, readTo_leaf held⟩
    | map other =>
      by_cases same : other = address
      · rw [same]
        exact here
      · obtain ⟨entries, listed, found, rfl, all⟩ := readTo_map.mp done
        refine ends_map (keeps other same entries found) fun entry member => ?_
        obtain ⟨field, -, -, read⟩ := exists_of_forall₂ all member
        exact hypothesis field.2 read

end Walkers

/-! ### How large a cell is -/

section Size

variable (weigh : Leaf → Nat) (name : Key → Nat)

/-- How large a cell is where it is unfolded to a depth: a leaf as it weighs, a map one, with its keys and what it
holds. `more` is added at every place where a map stands. -/
def Memory.sizeTo (memory : Memory Key Leaf) (more : Nat → Nat) : Nat → Cell Leaf → Nat
  | _, .leaf held => weigh held
  | 0, .map _ => 0
  | depth + 1, .map address =>
    1 + more address + ((memory.entriesAt address).map fun entry =>
      name entry.1 + memory.sizeTo more depth entry.2).sum

variable {weigh name} {memory edited : Memory Key Leaf} {more others : Nat → Nat} {depth deeper address bound : Nat}
  {cell held : Cell Leaf} {view : View Key Value} {leaf : Leaf → Value} {value : Value} {key : Key}
  {entries : List (Key × Cell Leaf)}

variable (name) in
/-- The size of what a map holds, bound entry by entry. -/
theorem sum_le_of_entries (every : ∀ entry ∈ entries,
      edited.sizeTo weigh name more depth entry.2 ≤ memory.sizeTo weigh name others deeper entry.2) :
    (entries.map fun entry => name entry.1 + edited.sizeTo weigh name more depth entry.2).sum ≤
      (entries.map fun entry => name entry.1 + memory.sizeTo weigh name others deeper entry.2).sum :=
  List.sum_le_sum fun entry member => Nat.add_le_add_left (every entry member) _

variable [DecidableEq Key]

theorem Keeps.sizeTo (keeps : Keeps memory address edited)
    (same : ∀ other ≠ address, more other = others other)
    (reads : memory.readTo view leaf deeper cell = some value) (apart : ¬ memory.Reaches cell address) :
    edited.sizeTo weigh name more depth cell ≤ memory.sizeTo weigh name others depth cell := by
  induction depth generalizing cell deeper value with
  | zero => cases cell <;> exact Nat.le_refl _
  | succ depth hypothesis =>
    cases cell with
    | leaf held => exact Nat.le_refl _
    | map other =>
      have differ : other ≠ address := by
        rintro rfl
        exact apart (reaches_self other)
      cases deeper with
      | zero => cases reads
      | succ deeper =>
        obtain ⟨entries, listed, present, -, all⟩ := readTo_map.mp reads
        rw [Memory.sizeTo, Memory.sizeTo, entriesAt_eq present, entriesAt_eq (keeps other differ entries present),
          same other differ]
        refine Nat.add_le_add_left (sum_le_of_entries name fun entry member => ?_) _
        obtain ⟨field, -, -, read⟩ := exists_of_forall₂ all member
        exact hypothesis read fun reached => apart (reaches_of_entry present member reached)

end Size

end SharedMaps
