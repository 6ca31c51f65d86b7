/-
This file develops maps that are shared: a memory of maps, whose entries hold leaves and the
addresses of other maps.

A cell is read to the value that it unfolds to. Reading fails where it does not end, which is
where a map contains itself. An edit of one map changes what is read at the cells that reach
it and at no others.
-/

import Mathlib.Data.Fintype.Card
import MqConnector.NestedMaps

namespace SharedMaps

open NestedMaps

variable {Key Leaf Value : Type}

/-- What a map holds under a key: a leaf, or the address of a map. -/
inductive Cell (Leaf : Type)
  | leaf (value : Leaf)
  | map (address : Nat)

/-- The maps of a memory, each at its address. The keys of a map are distinct. -/
structure Memory (Key Leaf : Type) where
  maps : List (List (Key × Cell Leaf))
  distinct : ∀ entries ∈ maps, (entries.map Prod.fst).Nodup

/-! ### Reading -/

section Reading

/-- What a cell unfolds to, where this does not nest deeper. -/
def Memory.readTo (view : View Key Value) (leaf : Leaf → Value) (memory : Memory Key Leaf) :
    Nat → Cell Leaf → Option Value
  | _, .leaf value => some (leaf value)
  | 0, .map _ => none
  | depth + 1, .map address =>
    (memory.maps[address]?).bind fun entries =>
      (entries.mapM fun entry => (memory.readTo view leaf depth entry.2).map (entry.1, ·)).map view.node

variable {view : View Key Value} {leaf : Leaf → Value} {memory : Memory Key Leaf} {depth other : Nat}
  {cell : Cell Leaf} {value : Value}

theorem mapM_eq_some {Entry Result : Type} {apply : Entry → Option Result} {entries : List Entry}
    {results : List Result} :
    entries.mapM apply = some results ↔ List.Forall₂ (fun entry result => apply entry = some result) entries results := by
  induction entries generalizing results with
  | nil => simp [eq_comm]
  | cons entry rest hypothesis =>
    rw [List.mapM_cons, List.forall₂_cons_left_iff]
    constructor
    · intro done
      obtain ⟨first, found, further⟩ := Option.bind_eq_some_iff.mp done
      obtain ⟨others, below, same⟩ := Option.bind_eq_some_iff.mp further
      exact ⟨first, others, found, hypothesis.mp below, (Option.some.inj same).symm⟩
    · rintro ⟨first, others, found, below, rfl⟩
      rw [found, hypothesis.mpr below]
      rfl

theorem exists_of_forall₂ {Entry Field : Type} {matched : Entry → Field → Prop} {entries : List Entry}
    {fields : List Field} (all : List.Forall₂ matched entries fields) {entry : Entry} (member : entry ∈ entries) :
    ∃ field ∈ fields, matched entry field := by
  induction all with
  | nil => exact absurd member List.not_mem_nil
  | cons first _ hypothesis =>
    rcases List.mem_cons.mp member with rfl | member
    · exact ⟨_, List.mem_cons_self, first⟩
    · obtain ⟨field, among, both⟩ := hypothesis member
      exact ⟨field, List.mem_cons_of_mem _ among, both⟩

theorem forall₂_imp_mem {Entry Field : Type} {matched further : Entry → Field → Prop} {entries : List Entry}
    {fields : List Field} (all : List.Forall₂ matched entries fields)
    (step : ∀ entry ∈ entries, ∀ field, matched entry field → further entry field) :
    List.Forall₂ further entries fields := by
  induction all with
  | nil => exact .nil
  | cons first _ hypothesis =>
    obtain ⟨here, others⟩ := List.forall_mem_cons.mp step
    exact .cons (here _ first) (hypothesis others)

theorem readTo_map {address : Nat} : memory.readTo view leaf (depth + 1) (.map address) = some value ↔
    ∃ entries listed, memory.maps[address]? = some entries ∧ value = view.node listed ∧
      List.Forall₂ (fun entry field => entry.1 = field.1 ∧ memory.readTo view leaf depth entry.2 = some field.2)
        entries listed := by
  rw [Memory.readTo, Option.bind_eq_some_iff]
  have entryEq (entry : Key × Cell Leaf) (field : Key × Value) :
      (memory.readTo view leaf depth entry.2).map (entry.1, ·) = some field ↔
        entry.1 = field.1 ∧ memory.readTo view leaf depth entry.2 = some field.2 := by
    rw [Option.map_eq_some_iff]
    constructor
    · rintro ⟨value, found, rfl⟩
      exact ⟨rfl, found⟩
    · rintro ⟨same, found⟩
      exact ⟨field.2, found, Prod.ext same rfl⟩
  constructor
  · rintro ⟨entries, found, read⟩
    obtain ⟨listed, done, rfl⟩ := Option.map_eq_some_iff.mp read
    exact ⟨entries, listed, found, rfl, (mapM_eq_some.mp done).imp fun _ _ => (entryEq _ _).mp⟩
  · rintro ⟨entries, listed, found, rfl, all⟩
    refine ⟨entries, found, Option.map_eq_some_iff.mpr ⟨listed, mapM_eq_some.mpr ?_, rfl⟩⟩
    exact all.imp fun _ _ => (entryEq _ _).mpr

theorem readTo_leaf (held : Leaf) : memory.readTo view leaf depth (.leaf held) = some (leaf held) := by
  cases depth <;> rfl

theorem readTo_mono (deeper : depth ≤ other) (done : memory.readTo view leaf depth cell = some value) :
    memory.readTo view leaf other cell = some value := by
  induction depth generalizing cell value other with
  | zero =>
    cases cell with
    | leaf held => exact (readTo_leaf held).trans done
    | map address => cases done
  | succ depth hypothesis =>
    cases cell with
    | leaf held => exact (readTo_leaf held).trans done
    | map address =>
      obtain ⟨other, rfl⟩ := Nat.exists_eq_add_of_le' (Nat.one_le_of_lt deeper)
      obtain ⟨entries, listed, found, rfl, all⟩ := readTo_map.mp done
      refine readTo_map.mpr ⟨entries, listed, found, rfl, all.imp fun entry field both => ⟨both.1, ?_⟩⟩
      exact hypothesis (Nat.le_of_succ_le_succ deeper) both.2

theorem readTo_unique {others : Value} (done : memory.readTo view leaf depth cell = some value)
    (again : memory.readTo view leaf other cell = some others) : value = others := by
  have first := readTo_mono (Nat.le_max_left depth other) done
  have second := readTo_mono (Nat.le_max_right depth other) again
  exact Option.some.inj (first.symm.trans second)

end Reading

/-! ### Following keys -/

section Following

def Memory.follow [DecidableEq Key] (memory : Memory Key Leaf) : List Key → Cell Leaf → Option (Cell Leaf)
  | [], cell => some cell
  | _ :: _, .leaf _ => none
  | key :: rest, .map address =>
    (memory.maps[address]?).bind fun entries => (entries.lookup key).bind (memory.follow rest)

variable [DecidableEq Key]

/-- A map can be reached from a cell. -/
def Memory.Reaches (memory : Memory Key Leaf) (cell : Cell Leaf) (address : Nat) : Prop :=
  ∃ path, memory.follow path cell = some (.map address)

variable {view : View Key Value} {leaf : Leaf → Value} {memory : Memory Key Leaf} {depth other : Nat}
  {cell held : Cell Leaf} {value : Value} {address : Nat} {path rest : List Key} {key : Key}
  {entries : List (Key × Cell Leaf)}

omit [DecidableEq Key] in
theorem Memory.distinct_of (memory : Memory Key Leaf) (found : memory.maps[address]? = some entries) :
    (entries.map Prod.fst).Nodup :=
  memory.distinct entries (List.mem_of_getElem? found)

theorem follow_map (found : memory.maps[address]? = some entries) :
    memory.follow (key :: rest) (.map address) = (entries.lookup key).bind (memory.follow rest) := by
  rw [Memory.follow, found]
  rfl

theorem reaches_self (address : Nat) : memory.Reaches (.map address) address :=
  ⟨[], rfl⟩

theorem reaches_of_entry (found : memory.maps[address]? = some entries) (member : (key, held) ∈ entries)
    {target : Nat} (reached : memory.Reaches held target) : memory.Reaches (.map address) target := by
  obtain ⟨path, leads⟩ := reached
  refine ⟨key :: path, ?_⟩
  rw [follow_map found, lookup_eq_some_of_mem (memory.distinct_of found) member]
  exact leads

theorem not_reaches_leaf (held : Leaf) : ¬ memory.Reaches (.leaf held) address := by
  rintro ⟨path, leads⟩
  cases path with
  | nil => cases leads
  | cons key path => cases leads

theorem readTo_of_follow (done : memory.readTo view leaf depth cell = some value)
    (leads : memory.follow path cell = some held) :
    path.length ≤ depth ∧ ∃ inner, memory.readTo view leaf (depth - path.length) held = some inner := by
  induction path generalizing depth cell value with
  | nil =>
    obtain rfl := Option.some.inj leads
    exact ⟨Nat.zero_le depth, value, done⟩
  | cons key path hypothesis =>
    cases cell with
    | leaf held => cases leads
    | map address =>
      cases depth with
      | zero => cases done
      | succ depth =>
        obtain ⟨entries, listed, found, rfl, all⟩ := readTo_map.mp done
        rw [follow_map found] at leads
        obtain ⟨child, looked, leads⟩ := Option.bind_eq_some_iff.mp leads
        obtain ⟨field, -, -, read⟩ := exists_of_forall₂ all (mem_of_lookup looked)
        obtain ⟨shorter, inner, below⟩ := hypothesis read leads
        rw [List.length_cons, Nat.add_sub_add_right]
        exact ⟨Nat.succ_le_succ shorter, inner, below⟩

theorem not_follow_self (done : memory.readTo view leaf depth (.map address) = some value) :
    memory.follow (key :: rest) (.map address) ≠ some (.map address) := by
  induction depth using Nat.strong_induction_on generalizing value with
  | _ depth hypothesis =>
    intro leads
    obtain ⟨longer, inner, below⟩ := readTo_of_follow done leads
    rw [List.length_cons] at longer below
    exact hypothesis _ (Nat.sub_lt (Nat.lt_of_lt_of_le (Nat.succ_pos _) longer) (Nat.succ_pos _)) below leads

theorem not_reaches_of_entry (done : memory.readTo view leaf depth (.map address) = some value)
    (found : memory.maps[address]? = some entries) (member : (key, held) ∈ entries) :
    ¬ memory.Reaches held address := by
  rintro ⟨path, leads⟩
  refine @not_follow_self _ _ _ _ _ _ _ _ _ _ path key done ?_
  rw [follow_map found, lookup_eq_some_of_mem (memory.distinct_of found) member]
  exact leads

theorem lt_of_reaches (done : memory.readTo view leaf depth cell = some value)
    (reached : memory.Reaches cell address) :
    address < memory.maps.length := by
  obtain ⟨path, leads⟩ := reached
  obtain ⟨-, inner, below⟩ := readTo_of_follow done leads
  cases further : depth - path.length with
  | zero =>
    rw [further] at below
    cases below
  | succ rest =>
    rw [further] at below
    obtain ⟨entries, -, found, -, -⟩ := readTo_map.mp below
    exact (List.getElem?_eq_some_iff.mp found).1

end Following

/-! ### Reading that ends -/

section Depth

variable (view : View Key Value) (leaf : Leaf → Value) (memory : Memory Key Leaf) {depth : Nat} {cell : Cell Leaf}
  {value : Value}

/-- What a cell unfolds to, if this ends: it nests at most as deep as there are maps. -/
def Memory.read (cell : Cell Leaf) : Option Value :=
  memory.readTo view leaf memory.maps.length cell

/-- A map that can be read to a depth of one more, and not less. -/
def Nests (depth address : Nat) : Prop :=
  memory.readTo view leaf depth (.map address) = none ∧
    ∃ value, memory.readTo view leaf (depth + 1) (.map address) = some value

variable {view leaf memory}

theorem Nests.below {address : Nat} (nests : Nests view leaf memory (depth + 1) address) :
    ∃ inner, Nests view leaf memory depth inner := by
  obtain ⟨shallow, value, deep⟩ := nests
  obtain ⟨entries, listed, found, rfl, all⟩ := readTo_map.mp deep
  by_contra nowhere
  have readable (entry : Key × Cell Leaf) (member : entry ∈ entries) :
      ∃ value, memory.readTo view leaf depth entry.2 = some value := by
    obtain ⟨field, -, -, read⟩ := exists_of_forall₂ all member
    obtain ⟨key, held⟩ := entry
    cases held with
    | leaf held => exact ⟨_, readTo_leaf held⟩
    | map inner =>
      refine Option.isSome_iff_exists.mp (Option.ne_none_iff_isSome.mp fun none => nowhere ⟨inner, none, field.2, ?_⟩)
      exact read
  have read : memory.readTo view leaf (depth + 1) (.map address) = some (view.node listed) := by
    refine readTo_map.mpr ⟨entries, listed, found, rfl, forall₂_imp_mem all fun entry member field both => ?_⟩
    obtain ⟨value, sooner⟩ := readable entry member
    rw [readTo_unique both.2 sooner]
    exact ⟨both.1, sooner⟩
  rw [shallow] at read
  cases read

theorem Nests.le {address : Nat} {other : Nat} (nests : Nests view leaf memory depth address)
    (again : Nests view leaf memory other address) : depth ≤ other := by
  by_contra deeper
  obtain ⟨value, read⟩ := again.2
  have sooner := readTo_mono (Nat.lt_of_not_le deeper) read
  rw [nests.1] at sooner
  cases sooner

theorem Nests.lt_length {address : Nat} (nests : Nests view leaf memory depth address) :
    address < memory.maps.length := by
  obtain ⟨value, read⟩ := nests.2
  obtain ⟨entries, -, found, -, -⟩ := readTo_map.mp read
  exact (List.getElem?_eq_some_iff.mp found).1

theorem Nests.depth_lt {address : Nat} (nests : Nests view leaf memory depth address) :
    depth < memory.maps.length := by
  have every (other : Fin (depth + 1)) : ∃ inner, Nests view leaf memory other inner := by
    obtain ⟨other, small⟩ := other
    induction depth generalizing address with
    | zero => exact ⟨address, Nat.lt_one_iff.mp small ▸ nests⟩
    | succ depth hypothesis =>
      rcases Nat.lt_succ_iff_lt_or_eq.mp small with less | rfl
      · obtain ⟨inner, below⟩ := nests.below
        exact hypothesis below less
      · exact ⟨address, nests⟩
  choose inner below using every
  have injective :
      Function.Injective fun other => (⟨inner other, (below other).lt_length⟩ : Fin memory.maps.length) := by
    intro first second same
    have addresses : inner first = inner second := congrArg Fin.val same
    exact Fin.ext (Nat.le_antisymm ((below first).le (addresses ▸ below second))
      ((below second).le (addresses ▸ below first)))
  have count := Fintype.card_le_of_injective _ injective
  rw [Fintype.card_fin, Fintype.card_fin] at count
  exact count

theorem read_of_readTo (done : memory.readTo view leaf depth cell = some value) :
    memory.read view leaf cell = some value := by
  induction depth with
  | zero => exact readTo_mono (Nat.zero_le _) done
  | succ depth hypothesis =>
    cases shallow : memory.readTo view leaf depth cell with
    | some sooner =>
      rw [readTo_unique done shallow] at hypothesis ⊢
      exact hypothesis shallow
    | none =>
      cases cell with
      | leaf held => exact (readTo_leaf held).trans ((readTo_leaf held).symm.trans done)
      | map address =>
        have nests : Nests view leaf memory depth address := ⟨shallow, value, done⟩
        exact readTo_mono nests.depth_lt done

variable {address : Nat} {entries : List (Key × Cell Leaf)}

/-- Reading a cell ends. -/
def Memory.Ends (view : View Key Value) (leaf : Leaf → Value) (memory : Memory Key Leaf) (cell : Cell Leaf) : Prop :=
  ∃ depth value, memory.readTo view leaf depth cell = some value

theorem ends_iff : memory.Ends view leaf cell ↔ ∃ value, memory.read view leaf cell = some value :=
  ⟨fun ⟨_, value, done⟩ => ⟨value, read_of_readTo done⟩, fun ⟨value, done⟩ => ⟨_, value, done⟩⟩

theorem ends_map (present : memory.maps[address]? = some entries)
    (every : ∀ entry ∈ entries, memory.Ends view leaf entry.2) : memory.Ends view leaf (.map address) := by
  obtain ⟨listed, all⟩ : ∃ listed, List.Forall₂ (fun entry (field : Key × Value) => entry.1 = field.1 ∧
      memory.readTo view leaf memory.maps.length entry.2 = some field.2) entries listed := by
    clear present
    induction entries with
    | nil => exact ⟨[], .nil⟩
    | cons entry rest hypothesis =>
      obtain ⟨first, others⟩ := List.forall_mem_cons.mp every
      obtain ⟨value, done⟩ := ends_iff.mp first
      obtain ⟨listed, all⟩ := hypothesis others
      exact ⟨(entry.1, value) :: listed, .cons ⟨rfl, done⟩ all⟩
  exact ⟨_, _, readTo_map.mpr ⟨entries, listed, present, rfl, all⟩⟩

end Depth

/-! ### Edits of one map -/

def Memory.modify (memory : Memory Key Leaf) (address : Nat)
    (change : List (Key × Cell Leaf) → List (Key × Cell Leaf))
    (kept : ∀ entries, (entries.map Prod.fst).Nodup → ((change entries).map Prod.fst).Nodup) : Memory Key Leaf where
  maps := memory.maps.modify address change
  distinct entries member := by
    obtain ⟨index, here⟩ := List.mem_iff_getElem?.mp member
    rw [List.getElem?_modify] at here
    obtain ⟨old, found, rfl⟩ := Option.map_eq_some_iff.mp here
    split
    · exact kept old (memory.distinct_of found)
    · exact memory.distinct_of found

def Memory.add (memory : Memory Key Leaf) (entries : List (Key × Cell Leaf))
    (distinct : (entries.map Prod.fst).Nodup) : Memory Key Leaf where
  maps := memory.maps ++ [entries]
  distinct others member := by
    rcases List.mem_append.mp member with member | fresh
    · exact memory.distinct others member
    · rw [List.mem_singleton.mp fresh]
      exact distinct

def Memory.alloc (memory : Memory Key Leaf) : Memory Key Leaf :=
  memory.add [] List.nodup_nil

section Maps

variable {memory : Memory Key Leaf} {address : Nat} {entries : List (Key × Cell Leaf)}
  {change : List (Key × Cell Leaf) → List (Key × Cell Leaf)}
  {kept : ∀ entries, (entries.map Prod.fst).Nodup → ((change entries).map Prod.fst).Nodup}

theorem modify_self (found : memory.maps[address]? = some entries) :
    (memory.modify address change kept).maps[address]? = some (change entries) := by
  rw [Memory.modify, List.getElem?_modify_eq, found]
  rfl

theorem modify_of_ne {other : Nat} (differ : other ≠ address) :
    (memory.modify address change kept).maps[other]? = memory.maps[other]? :=
  List.getElem?_modify_ne _ _ (Ne.symm differ)

theorem add_of_some {others : List (Key × Cell Leaf)} {distinct : (others.map Prod.fst).Nodup} {other : Nat}
    (found : memory.maps[other]? = some entries) : (memory.add others distinct).maps[other]? = some entries := by
  rw [Memory.add, List.getElem?_append_left (List.getElem?_eq_some_iff.mp found).1]
  exact found

theorem add_fresh {others : List (Key × Cell Leaf)} {distinct : (others.map Prod.fst).Nodup} :
    (memory.add others distinct).maps[memory.maps.length]? = some others :=
  List.getElem?_concat_length

theorem alloc_of_some {other : Nat} (found : memory.maps[other]? = some entries) :
    memory.alloc.maps[other]? = some entries :=
  add_of_some found

theorem alloc_fresh : (memory.alloc).maps[memory.maps.length]? = some [] :=
  add_fresh

/-- An edit keeps every map but one. -/
def Keeps (memory : Memory Key Leaf) (address : Nat) (edited : Memory Key Leaf) : Prop :=
  ∀ other ≠ address, ∀ entries, memory.maps[other]? = some entries → edited.maps[other]? = some entries

theorem keeps_modify : Keeps memory address (memory.modify address change kept) :=
  fun _ differ _ found => (modify_of_ne differ).trans found

theorem keeps_add {others : List (Key × Cell Leaf)} {distinct : (others.map Prod.fst).Nodup} :
    Keeps memory address (memory.add others distinct) :=
  fun _ _ _ => add_of_some

theorem keeps_alloc : Keeps memory address memory.alloc :=
  keeps_add

theorem Keeps.trans {edited further : Memory Key Leaf} (first : Keeps memory address edited)
    (second : Keeps edited address further) : Keeps memory address further :=
  fun other differ entries found => second other differ entries (first other differ entries found)

end Maps

section Edits

variable [DecidableEq Key] {view : View Key Value} {leaf : Leaf → Value} {memory edited : Memory Key Leaf}
  {depth address : Nat} {cell held : Cell Leaf} {value : Value} {key : Key} {entries : List (Key × Cell Leaf)}
  {change : List (Key × Cell Leaf) → List (Key × Cell Leaf)}

theorem mem_map_put {Entry : Type} {entries : List (Key × Entry)} {held : Entry} {other : Key} :
    other ∈ (put key held entries).map Prod.fst ↔ other = key ∨ other ∈ entries.map Prod.fst := by
  induction entries with
  | nil => simp [put_nil]
  | cons entry rest hypothesis =>
    rw [put_cons]
    split
    case isTrue same =>
      subst same
      simp
    case isFalse differ =>
      rw [List.map_cons, List.mem_cons, hypothesis, List.map_cons, List.mem_cons]
      tauto

theorem nodup_put {Entry : Type} (key : Key) (held : Entry) (entries : List (Key × Entry))
    (distinct : (entries.map Prod.fst).Nodup) : ((put key held entries).map Prod.fst).Nodup := by
  induction entries with
  | nil => exact List.nodup_singleton key
  | cons entry rest hypothesis =>
    obtain ⟨absent, others⟩ := List.nodup_cons.mp distinct
    rw [put_cons]
    split
    case isTrue same =>
      subst same
      exact List.nodup_cons.mpr ⟨absent, others⟩
    case isFalse differ =>
      refine List.nodup_cons.mpr ⟨fun member => ?_, hypothesis others⟩
      exact (mem_map_put.mp member).elim differ absent

theorem put_of_not_mem {Entry : Type} {key : Key} (held : Entry) {entries : List (Key × Entry)}
    (absent : key ∉ entries.map Prod.fst) : put key held entries = entries ++ [(key, held)] := by
  induction entries with
  | nil => rfl
  | cons entry rest hypothesis =>
    obtain ⟨differ, others⟩ := not_or.mp (fun either => absent (List.mem_cons.mpr either))
    rw [put_cons, if_neg (Ne.symm differ), hypothesis others]
    rfl

theorem nodup_erase {Entry : Type} (key : Key) (entries : List (Key × Entry))
    (distinct : (entries.map Prod.fst).Nodup) : ((erase key entries).map Prod.fst).Nodup :=
  distinct.sublist ((List.filter_sublist).map Prod.fst)

variable {kept : ∀ entries, (entries.map Prod.fst).Nodup → ((change entries).map Prod.fst).Nodup}

theorem Keeps.readTo (keeps : Keeps memory address edited)
    (done : memory.readTo view leaf depth cell = some value)
    (apart : ¬ memory.Reaches cell address) : edited.readTo view leaf depth cell = some value := by
  induction depth generalizing cell value with
  | zero =>
    cases cell with
    | leaf held => exact (readTo_leaf held).trans done
    | map other => cases done
  | succ depth hypothesis =>
    cases cell with
    | leaf held => exact (readTo_leaf held).trans done
    | map other =>
      have differ : other ≠ address := by
        rintro rfl
        exact apart (reaches_self other)
      obtain ⟨entries, listed, found, rfl, all⟩ := readTo_map.mp done
      refine readTo_map.mpr ⟨entries, listed, keeps other differ entries found, rfl,
        forall₂_imp_mem all fun entry member field both => ⟨both.1, ?_⟩⟩
      exact hypothesis both.2 fun reached => apart (reaches_of_entry found member reached)

theorem Keeps.follow (keeps : Keeps memory address edited)
    (done : memory.readTo view leaf depth cell = some value)
    (apart : ¬ memory.Reaches cell address) (path : List Key) :
    edited.follow path cell = memory.follow path cell := by
  induction path generalizing depth cell value with
  | nil => rfl
  | cons key path hypothesis =>
    cases cell with
    | leaf held => rfl
    | map other =>
      cases depth with
      | zero => cases done
      | succ depth =>
        have differ : other ≠ address := by
          rintro rfl
          exact apart (reaches_self other)
        obtain ⟨entries, listed, found, rfl, all⟩ := readTo_map.mp done
        rw [follow_map found, follow_map (keeps other differ entries found)]
        cases looked : entries.lookup key with
        | none => rfl
        | some child =>
          have member := mem_of_lookup looked
          obtain ⟨field, -, -, read⟩ := exists_of_forall₂ all member
          exact hypothesis read fun reached => apart (reaches_of_entry found member reached)

theorem Keeps.not_reaches (keeps : Keeps memory address edited)
    (done : memory.readTo view leaf depth cell = some value) (apart : ¬ memory.Reaches cell address) {target : Nat}
    (absent : ¬ memory.Reaches cell target) : ¬ edited.Reaches cell target := by
  rintro ⟨path, leads⟩
  rw [keeps.follow done apart path] at leads
  exact absent ⟨path, leads⟩

theorem not_reaches_fresh (done : memory.readTo view leaf depth cell = some value) :
    ¬ memory.Reaches cell memory.maps.length :=
  fun reached => absurd (lt_of_reaches done reached) (Nat.lt_irrefl _)

end Edits

end SharedMaps
