/-
This file is a small library on records with named fields, as a reflective encoder
writes them: each field of a type has a key and a kind, is written in the order of the
declaration, and may be left out when it holds the zero of its kind.

Nothing here names a record of this development. What a proof needs of a record type
is its `Layout`: the fields in order, with distinct keys, and a reader that gives back
what was written.
-/

import Mathlib.Data.List.Sort
import Mathlib.Data.String.Basic

namespace Fields

/-! ### Values and slots -/

/-- The values of a row's fields. -/
inductive Scalar
  | flag (value : Bool)
  | number (value : Int)
  | text (value : String)
  | texts (value : List String)
  deriving DecidableEq

/-- The kinds of these values. -/
inductive Kind
  | flag | number | text | texts
  deriving DecidableEq

namespace Scalar

def kind : Scalar → Kind
  | .flag _ => .flag
  | .number _ => .number
  | .text _ => .text
  | .texts _ => .texts

end Scalar

/-- The zero value of a kind. -/
def Kind.zero : Kind → Scalar
  | .flag => .flag false
  | .number => .number 0
  | .text => .text ""
  | .texts => .texts []

/-- The tag of a struct's field. -/
structure Tag where
  key : String
  omitempty : Bool := false
  kind : Kind
  deriving DecidableEq

/-- A field of a struct with its tag and value. -/
structure Slot where
  key : String
  omitempty : Bool := false
  value : Scalar
  deriving DecidableEq

def Slot.tag (slot : Slot) : Tag := ⟨slot.key, slot.omitempty, slot.value.kind⟩

/-- Zero values are left out where the tag asks for it. -/
def Slot.omitted (slot : Slot) : Bool :=
  slot.omitempty && decide (slot.value = slot.value.kind.zero)

/-- An object of JSON with its fields in their order. -/
abbrev Record := List (String × Scalar)

/-- The fields in order, those that are left out apart. -/
def encode (slots : List Slot) : Record :=
  (slots.filter fun slot => !slot.omitted).map fun slot => (slot.key, slot.value)

/-- The value under a key. -/
def lookup (record : Record) (key : String) : Option Scalar :=
  (record.find? fun entry => entry.1 = key).map Prod.snd

/-- The value under a key, the zero of its kind if there is none. -/
def get (find : String → Option Scalar) (key : String) (kind : Kind) : Scalar :=
  (find key).getD kind.zero

/-! ### What is found in a record -/

theorem lookup_cons_self (key : String) (value : Scalar) (record : Record) :
    lookup ((key, value) :: record) key = some value := by
  unfold lookup
  rw [List.find?_cons_of_pos (by exact decide_eq_true rfl)]
  rfl

theorem lookup_cons_of_ne {key other : String} (different : other ≠ key) (value : Scalar)
    (record : Record) : lookup ((other, value) :: record) key = lookup record key := by
  unfold lookup
  rw [List.find?_cons_of_neg (by exact fun same => different (of_decide_eq_true same))]

theorem lookup_eq_none {slots : List Slot} {key : String} (absent : key ∉ slots.map Slot.key) :
    lookup (encode slots) key = none := by
  rw [lookup, Option.map_eq_none_iff, List.find?_eq_none]
  intro entry member same
  obtain ⟨slot, among, rfl⟩ := List.mem_map.mp member
  refine absent (List.mem_map.mpr ⟨slot, (List.mem_filter.mp among).1, ?_⟩)
  exact of_decide_eq_true same

theorem lookup_encode {slots : List Slot} (distinct : (slots.map Slot.key).Nodup) {slot : Slot}
    (member : slot ∈ slots) :
    lookup (encode slots) slot.key = if slot.omitted then none else some slot.value := by
  induction slots with
  | nil => exact absurd member List.not_mem_nil
  | cons first rest hypothesis =>
    obtain ⟨apart, distinctRest⟩ := List.nodup_cons.mp distinct
    rcases List.mem_cons.mp member with rfl | later
    · split
      · rename_i omitted
        have skipped : encode (slot :: rest) = encode rest := by
          unfold encode
          rw [List.filter_cons_of_neg (by rw [omitted]; decide)]
        rw [skipped]
        exact lookup_eq_none apart
      · rename_i written
        have shown : encode (slot :: rest) = (slot.key, slot.value) :: encode rest := by
          unfold encode
          rw [List.filter_cons_of_pos (by rw [Bool.not_eq_true] at written; rw [written]; rfl),
            List.map_cons]
        rw [shown, lookup_cons_self]
    · have different : first.key ≠ slot.key := fun same => apart (same ▸ List.mem_map_of_mem later)
      rw [← hypothesis distinctRest later]
      unfold encode
      rw [List.filter_cons]
      split
      · exact lookup_cons_of_ne different _ _
      · rfl

theorem get_encode {slots : List Slot} (distinct : (slots.map Slot.key).Nodup) {slot : Slot}
    (member : slot ∈ slots) :
    get (lookup (encode slots)) slot.key slot.value.kind = slot.value := by
  rw [get, lookup_encode distinct member]
  split
  · rename_i omitted
    exact (of_decide_eq_true ((Bool.and_eq_true _ _).mp omitted).2).symm
  · rfl

/-! ### Layouts -/

/-- A record type: its fields in the order of the declaration, with distinct keys, and its reader. -/
structure Layout (Row : Type) where
  tags : List Tag
  slots : Row → List Slot
  read : (String → Option Scalar) → Row
  tagged : ∀ row, (slots row).map Slot.tag = tags
  distinct : (tags.map Tag.key).Nodup
  read_slots : ∀ row find, (∀ slot ∈ slots row, get find slot.key slot.value.kind = slot.value) →
    read find = row

namespace Layout

variable {Row : Type} (layout : Layout Row) {former latter row : Row}

/-- A row as an object. -/
def record (row : Row) : Record := encode (layout.slots row)

theorem keys (row : Row) : (layout.slots row).map Slot.key = layout.tags.map Tag.key := by
  rw [← layout.tagged row, List.map_map]
  rfl

theorem distinct_slots (row : Row) : ((layout.slots row).map Slot.key).Nodup := by
  rw [layout.keys]
  exact layout.distinct

theorem read_record (row : Row) : layout.read (lookup (layout.record row)) = row :=
  layout.read_slots row _ fun _ member => get_encode (layout.distinct_slots row) member

theorem slot_of_tag {tag : Tag} (member : tag ∈ layout.tags) (row : Row) :
    ∃ slot ∈ layout.slots row, slot.tag = tag := by
  rw [← layout.tagged row] at member
  exact List.mem_map.mp member

theorem read_eq_of_agrees {find : String → Option Scalar}
    (agrees : ∀ tag ∈ layout.tags, find tag.key = lookup (layout.record row) tag.key) :
    layout.read find = row := by
  refine layout.read_slots row find fun slot member => ?_
  have tag : slot.tag ∈ layout.tags := layout.tagged row ▸ List.mem_map_of_mem member
  have found : find slot.key = lookup (encode (layout.slots row)) slot.key := agrees slot.tag tag
  refine Eq.trans ?_ (get_encode (layout.distinct_slots row) member)
  rw [get, get, found]

theorem eq_iff_lookup :
    former = latter ↔ ∀ tag ∈ layout.tags,
      lookup (layout.record former) tag.key = lookup (layout.record latter) tag.key := by
  constructor
  · rintro rfl tag _
    rfl
  · intro agrees
    rw [← layout.read_record former]
    exact layout.read_eq_of_agrees agrees

end Layout

/-! ### Records without some of their keys, in the order of the keys -/

/-- The object without some of its keys. -/
def without (keys : List String) (record : Record) : Record :=
  record.filter fun entry => !keys.contains entry.1

/-- The record in the order of its keys, as a map is written. -/
def sorted (record : Record) : Record :=
  record.insertionSort fun former latter => former.1 ≤ latter.1

theorem lookup_without {keys : List String} {key : String} (kept : key ∉ keys) (record : Record) :
    lookup (without keys record) key = lookup record key := by
  induction record with
  | nil => rfl
  | cons entry rest hypothesis =>
    obtain ⟨other, value⟩ := entry
    unfold without
    rw [List.filter_cons]
    split
    · by_cases same : other = key
      · rw [same, lookup_cons_self, lookup_cons_self]
      · rw [lookup_cons_of_ne same, lookup_cons_of_ne same]
        exact hypothesis
    · rename_i dropped
      have different : other ≠ key := by
        rintro rfl
        refine dropped ?_
        rw [Bool.not_eq_true', List.contains_eq_mem]
        exact decide_eq_false kept
      rw [lookup_cons_of_ne different]
      exact hypothesis

theorem lookup_eq_some_iff {record : Record} (distinct : (record.map Prod.fst).Nodup) {key : String}
    {value : Scalar} : lookup record key = some value ↔ (key, value) ∈ record := by
  induction record with
  | nil => exact iff_of_false (Option.some_ne_none _).symm List.not_mem_nil
  | cons entry rest hypothesis =>
    obtain ⟨other, held⟩ := entry
    obtain ⟨apart, distinctRest⟩ := List.nodup_cons.mp distinct
    by_cases same : other = key
    · subst same
      rw [lookup_cons_self, List.mem_cons, Prod.mk.injEq, Option.some_inj]
      constructor
      · exact fun equal => Or.inl ⟨rfl, equal.symm⟩
      · rintro (equal | later)
        · exact equal.2.symm
        · exact absurd (List.mem_map_of_mem later) apart
    · rw [lookup_cons_of_ne same, hypothesis distinctRest, List.mem_cons, Prod.mk.injEq]
      exact ⟨Or.inr, fun either => either.resolve_left fun equal => same equal.1.symm⟩

theorem lookup_of_perm {former latter : Record} (distinct : (former.map Prod.fst).Nodup)
    (perm : former.Perm latter) (key : String) : lookup former key = lookup latter key := by
  refine Option.ext fun value => ?_
  rw [lookup_eq_some_iff distinct, lookup_eq_some_iff ((perm.map Prod.fst).nodup_iff.mp distinct)]
  exact perm.mem_iff

theorem encode_keys_nodup {slots : List Slot} (distinct : (slots.map Slot.key).Nodup) :
    ((encode slots).map Prod.fst).Nodup := by
  rw [encode, List.map_map]
  exact distinct.sublist (List.filter_sublist.map Slot.key)

theorem Layout.without_record {Row : Type} (layout : Layout Row) (keys : List String) (row : Row) :
    without keys (layout.record row) =
      (layout.tags.filter fun tag => !keys.contains tag.key).filterMap fun tag =>
        (lookup (layout.record row) tag.key).map fun value => (tag.key, value) := by
  have written : ∀ slot ∈ layout.slots row,
      (lookup (layout.record row) slot.key).map (fun value => (slot.key, value)) =
        if slot.omitted then none else some (slot.key, slot.value) := by
    intro slot member
    rw [Layout.record, lookup_encode (layout.distinct_slots row) member]
    split
    · rfl
    · rfl
  have kept : without keys (layout.record row) = (layout.slots row).filterMap fun slot =>
      if !keys.contains slot.key then if slot.omitted then none else some (slot.key, slot.value)
      else none := by
    rw [without, record, encode, List.filter_map, ← List.filterMap_eq_map, List.filter_filter,
      List.filterMap_filter]
    refine List.filterMap_congr fun slot _ => ?_
    simp only [Function.comp_apply]
    cases slot.omitted with
    | false => simp
    | true => simp
  rw [kept, ← layout.tagged row, List.filter_map, List.filterMap_map, List.filterMap_filter]
  refine List.filterMap_congr fun slot member => ?_
  rw [← written slot member]
  rfl

theorem Layout.sorted_without_eq_iff {Row : Type} (layout : Layout Row) (keys : List String)
    {former latter : Row} :
    sorted (without keys (layout.record former)) = sorted (without keys (layout.record latter)) ↔
      ∀ tag ∈ layout.tags, tag.key ∉ keys →
        lookup (layout.record former) tag.key = lookup (layout.record latter) tag.key := by
  have keysOf : ∀ row, ((without keys (layout.record row)).map Prod.fst).Nodup := fun row =>
    (encode_keys_nodup (layout.distinct_slots row)).sublist (List.filter_sublist.map Prod.fst)
  constructor
  · intro same tag _ kept
    have perm : (without keys (layout.record former)).Perm (without keys (layout.record latter)) :=
      (List.perm_insertionSort _ _).symm.trans
        ((List.Perm.of_eq same).trans (List.perm_insertionSort _ _))
    rw [← lookup_without kept (layout.record former), ← lookup_without kept (layout.record latter)]
    exact lookup_of_perm (keysOf former) perm tag.key
  · intro agrees
    refine congrArg sorted ?_
    rw [without_record, without_record]
    refine List.filterMap_congr fun tag member => ?_
    obtain ⟨declared, kept⟩ := List.mem_filter.mp member
    have apart : tag.key ∉ keys := by
      rw [Bool.not_eq_true', List.contains_eq_mem] at kept
      exact of_decide_eq_false kept
    rw [agrees tag declared apart]

/-! ### Rows with blank fields -/

/-- The slot with the zero of its kind if its key is among the given ones. -/
def Slot.blank (keys : List String) (slot : Slot) : Slot :=
  if slot.key ∈ keys then { slot with value := slot.value.kind.zero } else slot

@[simp] theorem Slot.blank_key (keys : List String) (slot : Slot) : (slot.blank keys).key = slot.key := by
  unfold Slot.blank
  split
  · rfl
  · rfl

theorem Layout.blank_eq_iff {Row : Type} (layout : Layout Row) {keys : List String} {bare : Row → Row}
    (blanks : ∀ row, layout.slots (bare row) = (layout.slots row).map (Slot.blank keys))
    {former latter : Row} :
    bare former = bare latter ↔ ∀ tag ∈ layout.tags, tag.key ∉ keys →
      lookup (layout.record former) tag.key = lookup (layout.record latter) tag.key := by
  have found : ∀ row, ∀ slot ∈ layout.slots row, lookup (layout.record (bare row)) slot.key =
      if (slot.blank keys).omitted then none else some (slot.blank keys).value := by
    intro row slot member
    have blanked : slot.blank keys ∈ layout.slots (bare row) := by
      rw [blanks]
      exact List.mem_map_of_mem member
    have there := lookup_encode (layout.distinct_slots (bare row)) blanked
    rwa [Slot.blank_key] at there
  have kept : ∀ row, ∀ tag ∈ layout.tags, tag.key ∉ keys →
      lookup (layout.record (bare row)) tag.key = lookup (layout.record row) tag.key := by
    intro row tag member apart
    obtain ⟨slot, among, rfl⟩ := layout.slot_of_tag member row
    have same : slot.blank keys = slot := if_neg apart
    have there := found row slot among
    rw [same] at there
    exact there.trans (lookup_encode (layout.distinct_slots row) among).symm
  rw [layout.eq_iff_lookup]
  constructor
  · intro agrees tag member apart
    rw [← kept former tag member apart, ← kept latter tag member apart]
    exact agrees tag member
  · intro agrees tag member
    by_cases blank : tag.key ∈ keys
    · -- both are the zero of the kind, left out or not by the tag
      obtain ⟨first, among, rfl⟩ := layout.slot_of_tag member former
      obtain ⟨second, present, same⟩ := layout.slot_of_tag member latter
      obtain ⟨key, omitempty, kind⟩ := Tag.mk.injEq .. ▸ same
      have blankFirst : first.blank keys = { first with value := first.value.kind.zero } :=
        if_pos blank
      have blankSecond : second.blank keys = { second with value := second.value.kind.zero } :=
        if_pos (key ▸ blank)
      have equal : first.blank keys = second.blank keys := by
        rw [blankFirst, blankSecond, kind, omitempty, key]
      have there := found latter second present
      rw [← equal, key] at there
      exact (found former first among).trans there.symm
    · rw [kept former tag member blank, kept latter tag member blank]
      exact agrees tag member blank

end Fields
