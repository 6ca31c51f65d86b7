/-
This file develops nested maps and the edits along paths of keys.

A value is opened as a map or it is none. A path is a list of keys, one for each map on the
way. To get, to set and to delete along a path obey the laws of a lens, and edits along paths
of which neither continues the other do not see each other.
-/

import Mathlib.Data.List.Fold
import Mathlib.Data.List.Induction
import Mathlib.Data.List.Perm.Basic

namespace NestedMaps

variable {Key Value : Type}

/-- How a value is opened as a map, and a map is closed to a value. -/
structure View (Key Value : Type) where
  entries : Value → Option (List (Key × Value))
  node : List (Key × Value) → Value
  entries_eq_some : ∀ value listed, entries value = some listed ↔ value = node listed

@[simp]
theorem View.entries_node (view : View Key Value) (listed : List (Key × Value)) :
    view.entries (view.node listed) = some listed :=
  (view.entries_eq_some _ _).mpr rfl

/-- Neither path continues the other. -/
def Apart (path other : List Key) : Prop :=
  ¬ path <+: other ∧ ¬ other <+: path

theorem Apart.symm {path other : List Key} (apart : Apart path other) : Apart other path :=
  And.symm apart

theorem not_apart_nil {path : List Key} : ¬ Apart [] path := fun apart => apart.1 List.nil_prefix

theorem apart_cons {key other : Key} {path rest : List Key} :
    Apart (key :: path) (other :: rest) ↔ key = other → Apart path rest := by
  rw [Apart, Apart, List.cons_prefix_cons, List.cons_prefix_cons]
  constructor
  · rintro ⟨forward, backward⟩ rfl
    exact ⟨fun further => forward ⟨rfl, further⟩, fun further => backward ⟨rfl, further⟩⟩
  · intro below
    exact ⟨fun both => (below both.1).1 both.2, fun both => (below both.1.symm).2 both.2⟩

variable [DecidableEq Key]

/-! ### One map -/

/-- Replace the first entry of the key, or add one. -/
def put (key : Key) (value : Value) : List (Key × Value) → List (Key × Value)
  | [] => [(key, value)]
  | (other, old) :: rest => if other = key then (key, value) :: rest else (other, old) :: put key value rest

def erase (key : Key) (entries : List (Key × Value)) : List (Key × Value) :=
  entries.filter fun entry => entry.1 ≠ key

section OneMap

variable (key other : Key) (value old : Value) (entries : List (Key × Value))

theorem lookup_cons (entry : Key × Value) :
    (entry :: entries).lookup key = if entry.1 = key then some entry.2 else entries.lookup key := by
  rw [List.lookup_cons]
  split
  case h_1 same => rw [if_pos (beq_iff_eq.mp same).symm]
  case h_2 differ => rw [if_neg fun same => beq_eq_false_iff_ne.mp differ same.symm]

theorem put_nil : put key value [] = [(key, value)] :=
  rfl

theorem put_cons (entry : Key × Value) : put key value (entry :: entries) =
    if entry.1 = key then (key, value) :: entries else entry :: put key value entries :=
  rfl

theorem erase_cons (entry : Key × Value) : erase key (entry :: entries) =
    if entry.1 = key then erase key entries else entry :: erase key entries := by
  rw [erase, List.filter_cons]
  by_cases same : entry.1 = key
  · rw [if_pos same, if_neg (by simpa using same)]
    rfl
  · rw [if_neg same, if_pos (decide_eq_true same)]
    rfl

@[simp]
theorem lookup_put_self : (put key value entries).lookup key = some value := by
  induction entries with
  | nil => rw [put_nil, lookup_cons, if_pos rfl]
  | cons entry rest hypothesis =>
    rw [put_cons]
    split
    case isTrue same => rw [lookup_cons, if_pos rfl]
    case isFalse differ => rw [lookup_cons, if_neg differ, hypothesis]

@[simp]
theorem lookup_erase_self : (erase key entries).lookup key = none := by
  induction entries with
  | nil => rfl
  | cons entry rest hypothesis =>
    rw [erase_cons]
    split
    case isTrue => exact hypothesis
    case isFalse differ => rw [lookup_cons, if_neg differ, hypothesis]

@[simp]
theorem put_put : put key value (put key old entries) = put key value entries := by
  induction entries with
  | nil => rw [put_nil, put_cons, if_pos rfl, put_nil]
  | cons entry rest hypothesis =>
    rw [put_cons, put_cons]
    split
    case isTrue same => rw [put_cons, if_pos rfl]
    case isFalse differ => rw [put_cons, if_neg differ, hypothesis]

@[simp]
theorem erase_put_self : erase key (put key value entries) = erase key entries := by
  induction entries with
  | nil => rw [put_nil, erase_cons, if_pos rfl]
  | cons entry rest hypothesis =>
    rw [put_cons, erase_cons]
    split
    case isTrue same => rw [erase_cons, if_pos rfl]
    case isFalse differ => rw [erase_cons, if_neg differ, hypothesis]

theorem erase_comm : erase key (erase other entries) = erase other (erase key entries) := by
  rw [erase, erase, erase, erase, List.filter_filter, List.filter_filter]
  simp only [Bool.and_comm]

variable {key other} (differ : other ≠ key)

section Apart

include differ

theorem lookup_put_of_ne : (put key value entries).lookup other = entries.lookup other := by
  induction entries with
  | nil => rw [put_nil, lookup_cons, if_neg differ.symm]
  | cons entry rest hypothesis =>
    rw [put_cons, lookup_cons]
    split
    case isTrue same => rw [lookup_cons, if_neg differ.symm, if_neg fun also => differ (also.symm.trans same)]
    case isFalse => rw [lookup_cons, hypothesis]

theorem lookup_erase_of_ne : (erase key entries).lookup other = entries.lookup other := by
  induction entries with
  | nil => rfl
  | cons entry rest hypothesis =>
    rw [erase_cons, lookup_cons]
    split
    case isTrue same => rw [hypothesis, if_neg fun also => differ (also.symm.trans same)]
    case isFalse => rw [lookup_cons, hypothesis]

theorem erase_put_of_ne : erase other (put key value entries) = put key value (erase other entries) := by
  induction entries with
  | nil => rw [put_nil, erase_cons, if_neg differ.symm]; rfl
  | cons entry rest hypothesis =>
    rw [put_cons, erase_cons]
    by_cases same : entry.1 = key
    · have kept : entry.1 ≠ other := fun also => differ (also.symm.trans same)
      rw [if_pos same, if_neg kept, erase_cons, if_neg differ.symm, put_cons, if_pos same]
    · rw [if_neg same, erase_cons, hypothesis]
      split
      case isTrue => rfl
      case isFalse => rw [put_cons, if_neg same]

theorem put_comm (present : (entries.lookup key).isSome) :
    put key value (put other old entries) = put other old (put key value entries) := by
  induction entries with
  | nil => cases present
  | cons entry rest hypothesis =>
    rw [lookup_cons] at present
    by_cases same : entry.1 = key
    · have apart : entry.1 ≠ other := fun also => differ (also.symm.trans same)
      rw [put_cons, if_neg apart, put_cons, if_pos same, put_cons, if_pos same, put_cons, if_neg differ.symm]
    · rw [if_neg same] at present
      by_cases also : entry.1 = other
      · rw [put_cons, if_pos also, put_cons, if_neg differ, put_cons, if_neg same, put_cons, if_pos also]
      · rw [put_cons, if_neg also, put_cons, if_neg same, hypothesis present, put_cons, if_neg same,
          put_cons, if_neg also]

end Apart

variable {value entries}

theorem put_of_lookup (found : entries.lookup key = some value) : put key value entries = entries := by
  induction entries with
  | nil => cases found
  | cons entry rest hypothesis =>
    rw [lookup_cons] at found
    rw [put_cons]
    split
    case isTrue same =>
      rw [if_pos same] at found
      exact congrArg (· :: rest) (Prod.ext same.symm (Option.some.inj found).symm)
    case isFalse differ =>
      rw [if_neg differ] at found
      rw [hypothesis found]

theorem erase_of_lookup (missing : entries.lookup key = none) : erase key entries = entries := by
  induction entries with
  | nil => rfl
  | cons entry rest hypothesis =>
    rw [lookup_cons] at missing
    rw [erase_cons]
    split
    case isTrue same =>
      rw [if_pos same] at missing
      cases missing
    case isFalse differ =>
      rw [if_neg differ] at missing
      rw [hypothesis missing]

theorem lookup_eq_some_of_mem (distinct : (entries.map Prod.fst).Nodup) (member : (key, value) ∈ entries) :
    entries.lookup key = some value := by
  induction entries with
  | nil => exact absurd member List.not_mem_nil
  | cons entry rest hypothesis =>
    obtain ⟨absent, others⟩ := List.nodup_cons.mp distinct
    rw [lookup_cons]
    rcases List.mem_cons.mp member with rfl | member
    · exact if_pos rfl
    · rw [if_neg, hypothesis others member]
      rintro same
      exact absent (same ▸ List.mem_map_of_mem member)

theorem mem_of_lookup (found : entries.lookup key = some value) : (key, value) ∈ entries := by
  induction entries with
  | nil => cases found
  | cons entry rest hypothesis =>
    rw [lookup_cons] at found
    split at found
    case isTrue same =>
      obtain rfl := Option.some.inj found
      exact same ▸ List.mem_cons_self
    case isFalse => exact List.mem_cons_of_mem _ (hypothesis found)

/-- Change the value of a key, or remove it, if the key is there. -/
def alter (key : Key) (change : Value → Option Value) (entries : List (Key × Value)) : List (Key × Value) :=
  match entries.lookup key with
  | none => entries
  | some value =>
    match change value with
    | none => erase key entries
    | some changed => put key changed entries

section Alter

variable {first second : Value → Option Value}

theorem alter_of_none (missing : entries.lookup key = none) : alter key first entries = entries := by
  rw [alter, missing]

theorem alter_of_some (found : entries.lookup key = some value) : alter key first entries =
    match first value with
    | none => erase key entries
    | some changed => put key changed entries := by
  rw [alter, found]

include differ in
theorem lookup_alter_of_ne : (alter key first entries).lookup other = entries.lookup other := by
  cases found : entries.lookup key with
  | none => rw [alter_of_none found]
  | some value =>
    rw [alter_of_some found]
    cases first value with
    | none => exact lookup_erase_of_ne entries differ
    | some changed => exact lookup_put_of_ne changed entries differ

theorem alter_alter :
    alter key second (alter key first entries) = alter key (fun value => (first value).bind second) entries := by
  cases found : entries.lookup key with
  | none => rw [alter_of_none found, alter_of_none found, alter_of_none found]
  | some value =>
    rw [alter_of_some found, alter_of_some found]
    cases first value with
    | none => exact alter_of_none (lookup_erase_self key entries)
    | some changed =>
      rw [alter_of_some (lookup_put_self key changed entries), Option.bind_some]
      cases second changed with
      | none => exact erase_put_self key changed entries
      | some again => exact put_put key again changed entries

include differ in
theorem alter_comm :
    alter key first (alter other second entries) = alter other second (alter key first entries) := by
  have apart (others : List (Key × Value)) (same : others.lookup other = entries.lookup other)
      (absent : entries.lookup other = none) : alter other second others = others :=
    alter_of_none (same.trans absent)
  cases found : entries.lookup key with
  | none =>
    rw [alter_of_none found, alter_of_none ((lookup_alter_of_ne differ.symm).trans found)]
  | some value =>
    cases present : entries.lookup other with
    | none => rw [alter_of_none present, alter_of_none ((lookup_alter_of_ne differ).trans present)]
    | some old =>
      have further : (alter key first entries).lookup other = some old :=
        (lookup_alter_of_ne differ).trans present
      rw [alter_of_some ((lookup_alter_of_ne differ.symm).trans found), alter_of_some present,
        alter_of_some further, alter_of_some found]
      cases first value with
      | none =>
        cases second old with
        | none => exact erase_comm key other entries
        | some changed => exact erase_put_of_ne changed entries differ.symm
      | some changed =>
        cases second old with
        | none => exact (erase_put_of_ne changed entries differ).symm
        | some again => exact put_comm changed again entries differ (by rw [found]; rfl)

end Alter

end OneMap

/-! ### Repeated edits -/

theorem foldl_congr_mem {State Edit : Type} {apply : State → Edit → State} [RightCommutative apply]
    (again : ∀ state edit, apply (apply state edit) edit = apply state edit) {edits others : List Edit}
    (same : ∀ edit, edit ∈ edits ↔ edit ∈ others) (state : State) :
    edits.foldl apply state = others.foldl apply state := by
  have absorbed (edit : Edit) (edits : List Edit) (member : edit ∈ edits) (state : State) :
      apply (edits.foldl apply state) edit = edits.foldl apply state := by
    obtain ⟨before, after, rfl⟩ := List.append_of_mem member
    rw [List.perm_middle.foldl_eq state, List.foldl_cons_eq_apply_foldl, again]
  have all (edits others : List Edit) (inside : ∀ edit ∈ others, edit ∈ edits) :
      (edits ++ others).foldl apply state = edits.foldl apply state := by
    induction others using List.reverseRecOn with
    | nil => rw [List.append_nil]
    | append_singleton others edit hypothesis =>
      have before := hypothesis fun other member => inside other (List.mem_append_left _ member)
      rw [← List.append_assoc, List.foldl_append, before]
      exact absorbed edit edits (inside edit (List.mem_append_right _ List.mem_cons_self)) state
  calc edits.foldl apply state
      = (edits ++ others).foldl apply state := (all edits others fun edit => (same edit).mpr).symm
    _ = (others ++ edits).foldl apply state := List.perm_append_comm.foldl_eq state
    _ = others.foldl apply state := all others edits fun edit => (same edit).mp

/-! ### Paths -/

namespace View

variable (view : View Key Value)

def get : List Key → List (Key × Value) → Option Value
  | [], _ => none
  | [key], listed => listed.lookup key
  | key :: next :: rest, listed => ((listed.lookup key).bind view.entries).bind (get (next :: rest))

/-- The map with a value at a path, with new maps on the way where there is nothing; none where
something else than a map is in the way. -/
def set : List Key → Value → List (Key × Value) → Option (List (Key × Value))
  | [], _, listed => some listed
  | [key], value, listed => some (put key value listed)
  | key :: next :: rest, value, listed =>
    match listed.lookup key with
    | none => (set (next :: rest) value []).map fun inner => put key (view.node inner) listed
    | some child =>
      (view.entries child).bind fun inner =>
        (set (next :: rest) value inner).map fun inner => put key (view.node inner) listed

/-- The map without the value at a path. -/
def delete : List Key → List (Key × Value) → List (Key × Value)
  | [], listed => listed
  | [key], listed => erase key listed
  | key :: next :: rest, listed =>
    match (listed.lookup key).bind view.entries with
    | none => listed
    | some inner => put key (view.node (delete (next :: rest) inner)) listed

section Laws

variable {view} {key : Key} {path other rest : List Key} {value : Value} {listed edited : List (Key × Value)}

theorem get_cons (nonempty : rest ≠ []) : view.get (key :: rest) listed =
    ((listed.lookup key).bind view.entries).bind (view.get rest) := by
  cases rest with
  | nil => exact absurd rfl nonempty
  | cons next rest => rfl

theorem set_cons_eq_some (nonempty : rest ≠ []) : view.set (key :: rest) value listed = some edited ↔
    ∃ inner below, (listed.lookup key = none ∧ inner = [] ∨ listed.lookup key = some (view.node inner)) ∧
      view.set rest value inner = some below ∧ edited = put key (view.node below) listed := by
  cases rest with
  | nil => exact absurd rfl nonempty
  | cons next rest =>
    rw [set]
    cases found : listed.lookup key with
    | none =>
      rw [Option.map_eq_some_iff]
      constructor
      · rintro ⟨below, further, rfl⟩
        exact ⟨[], below, Or.inl ⟨rfl, rfl⟩, further, rfl⟩
      · rintro ⟨inner, below, ⟨-, rfl⟩ | other, further, rfl⟩
        · exact ⟨below, further, rfl⟩
        · cases other
    | some child =>
      rw [Option.bind_eq_some_iff]
      constructor
      · rintro ⟨inner, opened, mapped⟩
        obtain ⟨below, further, rfl⟩ := Option.map_eq_some_iff.mp mapped
        exact ⟨inner, below, Or.inr (congrArg some ((view.entries_eq_some _ _).mp opened)), further, rfl⟩
      · rintro ⟨inner, below, ⟨other, -⟩ | same, further, rfl⟩
        · cases other
        · refine ⟨inner, (view.entries_eq_some _ _).mpr (Option.some.inj same), ?_⟩
          rw [further, Option.map_some]

theorem set_empty (view : View Key Value) (path : List Key) (value : Value) :
    ∃ edited, view.set path value [] = some edited := by
  induction path with
  | nil => exact ⟨_, rfl⟩
  | cons key rest hypothesis =>
    by_cases last : rest = []
    · subst last
      exact ⟨_, rfl⟩
    · obtain ⟨below, further⟩ := hypothesis
      exact ⟨_, (set_cons_eq_some last).mpr ⟨[], below, Or.inl ⟨rfl, rfl⟩, further, rfl⟩⟩

theorem delete_cons (nonempty : rest ≠ []) (view : View Key Value) (key : Key) (listed : List (Key × Value)) :
    (listed.lookup key).bind view.entries = none ∧ view.delete (key :: rest) listed = listed ∨
      ∃ inner, listed.lookup key = some (view.node inner) ∧
        view.delete (key :: rest) listed = put key (view.node (view.delete rest inner)) listed := by
  cases rest with
  | nil => exact absurd rfl nonempty
  | cons next rest =>
    rw [delete]
    cases found : (listed.lookup key).bind view.entries with
    | none => exact Or.inl ⟨rfl, rfl⟩
    | some inner =>
      obtain ⟨child, present, opened⟩ := Option.bind_eq_some_iff.mp found
      rw [view.entries_eq_some] at opened
      exact Or.inr ⟨inner, opened ▸ present, rfl⟩

theorem get_cons_node (nonempty : rest ≠ []) {inner : List (Key × Value)}
    (found : listed.lookup key = some (view.node inner)) :
    view.get (key :: rest) listed = view.get rest inner := by
  rw [get_cons nonempty, found, Option.bind_some, entries_node, Option.bind_some]

theorem get_set (nonempty : path ≠ []) (done : view.set path value listed = some edited) :
    view.get path edited = some value := by
  induction path generalizing listed edited with
  | nil => exact absurd rfl nonempty
  | cons key rest hypothesis =>
    by_cases last : rest = []
    · subst last
      obtain rfl := Option.some.inj done
      exact lookup_put_self key value listed
    · obtain ⟨inner, below, -, further, rfl⟩ := (set_cons_eq_some last).mp done
      rw [get_cons_node last (lookup_put_self key _ listed)]
      exact hypothesis last further

theorem get_congr {others : List (Key × Value)} (same : others.lookup key = listed.lookup key)
    (rest : List Key) : view.get (key :: rest) others = view.get (key :: rest) listed := by
  cases rest with
  | nil => exact same
  | cons next rest => rw [get, get, same]

theorem get_set_of_apart (apart : Apart path other) (done : view.set path value listed = some edited) :
    view.get other edited = view.get other listed := by
  induction path generalizing other listed edited with
  | nil => exact absurd apart not_apart_nil
  | cons key rest hypothesis =>
    cases other with
    | nil => exact absurd apart.symm not_apart_nil
    | cons first others =>
      have below := apart_cons.mp apart
      by_cases last : rest = []
      · subst last
        obtain rfl := Option.some.inj done
        refine get_congr (lookup_put_of_ne value listed fun same => ?_) others
        exact not_apart_nil (below same.symm)
      · obtain ⟨inner, changed, found, further, rfl⟩ := (set_cons_eq_some last).mp done
        by_cases same : key = first
        · subst same
          have longer : others ≠ [] := fun none => not_apart_nil (none ▸ (below rfl).symm)
          rw [get_cons_node longer (lookup_put_self key _ listed), hypothesis (below rfl) further]
          rcases found with ⟨missing, rfl⟩ | found
          · rw [get_cons longer, missing]
            cases others with
            | nil => exact absurd rfl longer
            | cons next others => cases others <;> rfl
          · rw [get_cons_node longer found]
        · exact get_congr (lookup_put_of_ne _ listed (Ne.symm same)) others

theorem get_delete (nonempty : path ≠ []) : view.get path (view.delete path listed) = none := by
  induction path generalizing listed with
  | nil => exact absurd rfl nonempty
  | cons key rest hypothesis =>
    by_cases last : rest = []
    · subst last
      exact lookup_erase_self key listed
    · rcases delete_cons last view key listed with ⟨missing, same⟩ | ⟨inner, found, same⟩
      · rw [same, get_cons last, missing, Option.bind_none]
      · rw [same, get_cons_node last (lookup_put_self key _ listed)]
        exact hypothesis last

theorem get_delete_of_apart (apart : Apart path other) :
    view.get other (view.delete path listed) = view.get other listed := by
  induction path generalizing other listed with
  | nil => exact absurd apart not_apart_nil
  | cons key rest hypothesis =>
    cases other with
    | nil => exact absurd apart.symm not_apart_nil
    | cons first others =>
      have below := apart_cons.mp apart
      by_cases last : rest = []
      · subst last
        refine get_congr (lookup_erase_of_ne listed fun same => ?_) others
        exact not_apart_nil (below same.symm)
      · rcases delete_cons last view key listed with ⟨-, same⟩ | ⟨inner, found, same⟩
        · rw [same]
        · rw [same]
          by_cases named : key = first
          · subst named
            have longer : others ≠ [] := fun none => not_apart_nil (none ▸ (below rfl).symm)
            rw [get_cons_node longer (lookup_put_self key _ listed), get_cons_node longer found]
            exact hypothesis (below rfl)
          · exact get_congr (lookup_put_of_ne _ listed (Ne.symm named)) others

/-! ### Deletions -/

/-- What a deletion does with the value of its first key. -/
def deleteBelow (view : View Key Value) : List Key → Value → Option Value
  | [], _ => none
  | key :: rest, child =>
    match view.entries child with
    | none => some child
    | some inner => some (view.node (view.delete (key :: rest) inner))

theorem delete_eq_alter (view : View Key Value) (key : Key) (rest : List Key) (listed : List (Key × Value)) :
    view.delete (key :: rest) listed = alter key (view.deleteBelow rest) listed := by
  cases found : listed.lookup key with
  | none =>
    rw [alter_of_none found]
    cases rest with
    | nil => exact erase_of_lookup found
    | cons next rest => rw [delete, found, Option.bind_none]
  | some child =>
    rw [alter_of_some found]
    cases rest with
    | nil => rfl
    | cons next rest =>
      rw [delete, found, Option.bind_some, deleteBelow]
      cases view.entries child with
      | none => exact (put_of_lookup found).symm
      | some inner => rfl

theorem delete_comm (view : View Key Value) (path other : List Key) (listed : List (Key × Value)) :
    view.delete path (view.delete other listed) = view.delete other (view.delete path listed) := by
  induction path generalizing other listed with
  | nil => rfl
  | cons key rest hypothesis =>
    cases other with
    | nil => rfl
    | cons first others =>
      rw [delete_eq_alter, delete_eq_alter, delete_eq_alter, delete_eq_alter]
      by_cases same : first = key
      · subst same
        rw [alter_alter, alter_alter]
        refine congrArg (alter first · listed) (funext fun child => ?_)
        cases rest with
        | nil => cases h : view.deleteBelow others child <;> rfl
        | cons next rest =>
          cases others with
          | nil => cases h : view.deleteBelow (next :: rest) child <;> rfl
          | cons more others =>
            rw [deleteBelow, deleteBelow]
            cases opened : view.entries child with
            | none => rw [Option.bind_some, Option.bind_some, deleteBelow, opened, deleteBelow, opened]
            | some inner =>
              rw [Option.bind_some, Option.bind_some, deleteBelow, entries_node, deleteBelow, entries_node]
              exact congrArg (fun inner => some (view.node inner)) (hypothesis (more :: others) inner)
      · exact alter_comm same

theorem delete_delete_self (view : View Key Value) (path : List Key) (listed : List (Key × Value)) :
    view.delete path (view.delete path listed) = view.delete path listed := by
  induction path generalizing listed with
  | nil => rfl
  | cons key rest hypothesis =>
    rw [delete_eq_alter, delete_eq_alter, alter_alter]
    refine congrArg (alter key · listed) (funext fun child => ?_)
    cases rest with
    | nil => rfl
    | cons next rest =>
      rw [deleteBelow]
      cases opened : view.entries child with
      | none => rw [Option.bind_some, deleteBelow, opened]
      | some inner =>
        rw [Option.bind_some, deleteBelow, entries_node]
        exact congrArg (fun inner => some (view.node inner)) (hypothesis inner)

/-! ### Edits that keep each other possible -/

theorem set_of_get (found : view.get path listed = some value) :
    view.set path value listed = some listed := by
  induction path generalizing listed with
  | nil => rfl
  | cons key rest hypothesis =>
    by_cases last : rest = []
    · subst last
      exact congrArg some (put_of_lookup found)
    · rw [get_cons last] at found
      obtain ⟨inner, opened, further⟩ := Option.bind_eq_some_iff.mp found
      obtain ⟨child, present, opened⟩ := Option.bind_eq_some_iff.mp opened
      rw [view.entries_eq_some] at opened
      subst opened
      refine (set_cons_eq_some last).mpr ⟨inner, inner, Or.inr present, hypothesis further, ?_⟩
      exact (put_of_lookup present).symm

theorem set_delete_of_apart (apart : Apart path other) (done : view.set other value listed = some edited) :
    ∃ after, view.set other value (view.delete path listed) = some after := by
  induction path generalizing other listed edited with
  | nil => exact absurd apart not_apart_nil
  | cons key rest hypothesis =>
    cases other with
    | nil => exact ⟨_, rfl⟩
    | cons first others =>
      by_cases single : others = []
      · subst single
        exact ⟨_, rfl⟩
      · obtain ⟨inner, below, found, further, -⟩ := (set_cons_eq_some single).mp done
        by_cases same : key = first
        · subst same
          have rests := apart_cons.mp apart rfl
          have last : rest ≠ [] := fun none => not_apart_nil (none ▸ rests)
          rcases delete_cons last view key listed with ⟨missing, unchanged⟩ | ⟨child, present, changed⟩
          · rw [unchanged]
            exact ⟨edited, done⟩
          · obtain rfl : inner = child := by
              rcases found with ⟨missing, -⟩ | found
              · rw [missing] at present
                cases present
              · exact Option.some.inj (by rw [← view.entries_node, ← view.entries_node child,
                  ← Option.some.inj (found.symm.trans present)])
            obtain ⟨after, done⟩ := hypothesis rests further
            refine ⟨_, (set_cons_eq_some single).mpr ⟨_, after, Or.inr ?_, done, rfl⟩⟩
            rw [changed]
            exact lookup_put_self key _ listed
        · refine ⟨_, (set_cons_eq_some single).mpr ⟨inner, below, ?_, further, rfl⟩⟩
          rw [delete_eq_alter, lookup_alter_of_ne (Ne.symm same)]
          exact found

end Laws

end View

end NestedMaps
