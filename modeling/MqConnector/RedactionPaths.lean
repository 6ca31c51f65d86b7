/-
This file asks whether a JSON path of the redaction rules masks exactly the nodes that it
names.

A node has a place: the numbers of the children on the way to it. A path of the documented
grammar denotes places, and to mask is to replace the nodes at these places.
-/

import MqConnector.Redaction

namespace MqConnector

namespace Masking

/-! ### Places in a document -/

/-- The numbers of the children on the way to a node. -/
abbrev Place := List Nat

/-- A node stands at a place of a document. -/
inductive At : JsonValue → Place → JsonValue → Prop
  | here {node : JsonValue} : At node [] node
  | item {items : List JsonValue} {item node : JsonValue} {number : Nat} {rest : Place}
      (found : items[number]? = some item) (further : At item rest node) :
      At (.array items) (number :: rest) node
  | field {fields : List (String × JsonValue)} {name : String} {value node : JsonValue} {number : Nat}
      {rest : Place} (found : fields[number]? = some (name, value)) (further : At value rest node) :
      At (.object fields) (number :: rest) node

mutual

/-- The document with the nodes at the marked places replaced. -/
def maskWhere (mask : JsonValue) (marked : Place → Bool) : JsonValue → JsonValue
  | .array items => if marked [] then mask else .array (maskItems mask marked 0 items)
  | .object fields => if marked [] then mask else .object (maskFields mask marked 0 fields)
  | node => if marked [] then mask else node

def maskItems (mask : JsonValue) (marked : Place → Bool) (number : Nat) : List JsonValue → List JsonValue
  | [] => []
  | item :: items =>
    maskWhere mask (fun rest => marked (number :: rest)) item :: maskItems mask marked (number + 1) items

def maskFields (mask : JsonValue) (marked : Place → Bool) (number : Nat) :
    List (String × JsonValue) → List (String × JsonValue)
  | [] => []
  | (name, value) :: fields =>
    (name, maskWhere mask (fun rest => marked (number :: rest)) value) ::
      maskFields mask marked (number + 1) fields

end

section MaskWhere

variable {mask : JsonValue} {marked : Place → Bool}

theorem maskWhere_marked (root : marked [] = true) (node : JsonValue) :
    maskWhere mask marked node = mask := by
  cases node <;> exact if_pos root

theorem maskWhere_array (unmarked : marked [] = false) (items : List JsonValue) :
    maskWhere mask marked (.array items) = .array (maskItems mask marked 0 items) := by
  rw [maskWhere, unmarked]
  rfl

theorem maskWhere_object (unmarked : marked [] = false) (fields : List (String × JsonValue)) :
    maskWhere mask marked (.object fields) = .object (maskFields mask marked 0 fields) := by
  rw [maskWhere, unmarked]
  rfl

theorem getElem?_maskItems (items : List JsonValue) (start number : Nat) :
    (maskItems mask marked start items)[number]? =
      items[number]?.map (maskWhere mask fun rest => marked ((start + number) :: rest)) := by
  induction items generalizing start number with
  | nil => rfl
  | cons item items hypothesis =>
    rw [maskItems]
    cases number with
    | zero => rfl
    | succ number =>
      rw [List.getElem?_cons_succ, List.getElem?_cons_succ, hypothesis,
        Nat.add_assoc, Nat.add_comm 1]

theorem getElem?_maskFields (fields : List (String × JsonValue)) (start number : Nat) :
    (maskFields mask marked start fields)[number]? = fields[number]?.map fun field =>
      (field.1, maskWhere mask (fun rest => marked ((start + number) :: rest)) field.2) := by
  induction fields generalizing start number with
  | nil => rfl
  | cons field fields hypothesis =>
    rw [maskFields]
    cases number with
    | zero => rfl
    | succ number =>
      rw [List.getElem?_cons_succ, List.getElem?_cons_succ, hypothesis,
        Nat.add_assoc, Nat.add_comm 1]

theorem JsonValue.nested {holds : JsonValue → Prop}
    (scalar : ∀ node, (∀ items, node ≠ .array items) → (∀ fields, node ≠ .object fields) → holds node)
    (array : ∀ items, (∀ item ∈ items, holds item) → holds (.array items))
    (object : ∀ fields, (∀ field ∈ fields, holds field.2) → holds (.object fields)) (node : JsonValue) : holds node := by
  refine @JsonValue.rec holds (fun items => ∀ item ∈ items, holds item) (fun fields => ∀ field ∈ fields, holds field.2)
    (fun field => holds field.2) ?_ ?_ ?_ ?_ array object ?_ ?_ ?_ ?_ ?_ node
  · exact scalar _ (fun _ => JsonValue.noConfusion) fun _ => JsonValue.noConfusion
  · exact fun _ => scalar _ (fun _ => JsonValue.noConfusion) fun _ => JsonValue.noConfusion
  · exact fun _ => scalar _ (fun _ => JsonValue.noConfusion) fun _ => JsonValue.noConfusion
  · exact fun _ => scalar _ (fun _ => JsonValue.noConfusion) fun _ => JsonValue.noConfusion
  · exact fun _ member => absurd member List.not_mem_nil
  · exact fun _ _ first others => List.forall_mem_cons.mpr ⟨first, others⟩
  · exact fun _ member => absurd member List.not_mem_nil
  · exact fun _ _ first others => List.forall_mem_cons.mpr ⟨first, others⟩
  · exact fun _ _ value => value

theorem maskWhere_unmarked (clear : ∀ place, marked place = false) (node : JsonValue) :
    maskWhere mask marked node = node := by
  induction node using JsonValue.nested generalizing marked with
  | scalar node array object =>
    cases node with
    | array items => exact absurd rfl (array items)
    | object fields => exact absurd rfl (object fields)
    | null | bool | number | string => exact if_neg (by rw [clear]; exact Bool.false_ne_true)
  | array items each =>
    rw [maskWhere_array (clear [])]
    refine congrArg JsonValue.array (List.ext_getElem? fun number => ?_)
    rw [getElem?_maskItems]
    cases found : items[number]? with
    | none => rfl
    | some item => exact congrArg some (each item (List.mem_of_getElem? found) fun place => clear _)
  | object fields each =>
    rw [maskWhere_object (clear [])]
    refine congrArg JsonValue.object (List.ext_getElem? fun number => ?_)
    rw [getElem?_maskFields]
    cases found : fields[number]? with
    | none => rfl
    | some field => exact congrArg some (Prod.ext rfl (each field (List.mem_of_getElem? found) fun place => clear _))

end MaskWhere

/-! ### What a path denotes -/

/-- A step of the documented grammar, without its spelling. -/
inductive Step
  | key (name : String)
  | item (index : Int)
  | all

/-- The segment that the parser makes of a step. -/
def Step.segment : Step → PathSegment
  | .key name => .key name
  | .item index => .index index
  | .all => .wildcard

/-- The places that steps lead to from a node. A negative index counts from the end. -/
inductive Denotes : List Step → JsonValue → Place → Prop
  | done {node : JsonValue} : Denotes [] node []
  | key {fields : List (String × JsonValue)} {name : String} {value : JsonValue} {number : Nat}
      {rest : List Step} {place : Place} (found : fields[number]? = some (name, value))
      (further : Denotes rest value place) : Denotes (.key name :: rest) (.object fields) (number :: place)
  | item {items : List JsonValue} {item : JsonValue} {index : Int} {number : Nat} {rest : List Step}
      {place : Place} (found : items[number]? = some item)
      (counted : (number : Int) = if index < 0 then items.length + index else index)
      (further : Denotes rest item place) : Denotes (.item index :: rest) (.array items) (number :: place)
  | all {items : List JsonValue} {item : JsonValue} {number : Nat} {rest : List Step} {place : Place}
      (found : items[number]? = some item) (further : Denotes rest item place) :
      Denotes (.all :: rest) (.array items) (number :: place)

/-- The places of the fields of a name, anywhere. -/
def Anywhere (name : String) (document : JsonValue) (place : Place) : Prop :=
  ∃ before number fields value, place = before ++ [number] ∧ At document before (.object fields) ∧
    fields[number]? = some (name, value)

open Classical in
/-- The document with the nodes at these places replaced, and whether there is one. -/
noncomputable def masked (mask : JsonValue) (places : Place → Prop) (document : JsonValue) :
    JsonValue × Bool :=
  (maskWhere mask (fun place => decide (places place)) document, decide (∃ place, places place))

section Walks

variable {mask : JsonValue}

open Classical in
theorem masked_congr {places others : Place → Prop} (same : ∀ place, places place ↔ others place)
    (document : JsonValue) : masked mask places document = masked mask others document := by
  rw [show places = others from funext fun place => propext (same place)]

open Classical in
theorem masked_none {places : Place → Prop} (none : ∀ place, ¬ places place) (document : JsonValue) :
    masked mask places document = (document, false) := by
  rw [masked, maskWhere_unmarked (fun place => decide_eq_false (none place)) document,
    decide_eq_false fun ⟨place, found⟩ => none place found]

open Classical in
theorem masked_root {places : Place → Prop} (root : places []) (document : JsonValue) :
    masked mask places document = (mask, true) := by
  rw [masked, maskWhere_marked (decide_eq_true root), decide_eq_true ⟨[], root⟩]

open Classical in
theorem masked_array {places : Place → Prop} (root : ¬ places []) {items walked : List JsonValue} {hit : Bool}
    (each : ∀ number, walked[number]? = items[number]?.map fun item =>
      (masked mask (fun place => places (number :: place)) item).1)
    (hits : hit = true ↔ ∃ place, places place) :
    masked mask places (.array items) = (.array walked, hit) := by
  rw [masked, maskWhere_array (decide_eq_false root)]
  refine Prod.ext (congrArg JsonValue.array (List.ext_getElem? fun number => ?_)) ?_
  · rw [getElem?_maskItems, each, Nat.zero_add]
    rfl
  · rw [Bool.eq_iff_iff, decide_eq_true_eq]
    exact hits.symm

open Classical in
theorem masked_object {places : Place → Prop} (root : ¬ places [])
    {fields walked : List (String × JsonValue)} {hit : Bool}
    (each : ∀ number, walked[number]? = fields[number]?.map fun field =>
      (field.1, (masked mask (fun place => places (number :: place)) field.2).1))
    (hits : hit = true ↔ ∃ place, places place) :
    masked mask places (.object fields) = (.object walked, hit) := by
  rw [masked, maskWhere_object (decide_eq_false root)]
  refine Prod.ext (congrArg JsonValue.object (List.ext_getElem? fun number => ?_)) ?_
  · rw [getElem?_maskFields, each, Nat.zero_add]
    rfl
  · rw [Bool.eq_iff_iff, decide_eq_true_eq]
    exact hits.symm

open Classical in
theorem snd_masked {places : Place → Prop} (document : JsonValue) :
    (masked mask places document).2 = true ↔ ∃ place, places place :=
  decide_eq_true_iff

theorem masked_items {places : Place → Prop} {items : List JsonValue} {result : JsonValue → JsonValue × Bool}
    {below : JsonValue → Place → Prop} (root : ¬ places [])
    (leads : ∀ number rest, places (number :: rest) ↔ ∃ item, items[number]? = some item ∧ below item rest)
    (each : ∀ item ∈ items, result item = masked mask (below item) item) :
    (.array (items.map fun item => (result item).1), items.any fun item => (result item).2) =
      masked mask places (.array items) := by
  refine (masked_array root (fun number => ?_) ?_).symm
  · rw [List.getElem?_map]
    cases found : items[number]? with
    | none => rfl
    | some item =>
      rw [Option.map_some, Option.map_some, each item (List.mem_of_getElem? found)]
      refine congrArg some (congrArg Prod.fst (masked_congr (fun rest => ?_) item))
      rw [leads, found]
      simp
  · rw [List.any_eq_true]
    constructor
    · rintro ⟨item, member, hit⟩
      rw [each item member, snd_masked] at hit
      obtain ⟨rest, there⟩ := hit
      obtain ⟨number, found⟩ := List.mem_iff_getElem?.mp member
      exact ⟨number :: rest, (leads number rest).mpr ⟨item, found, there⟩⟩
    · rintro ⟨_ | ⟨number, rest⟩, there⟩
      · exact absurd there root
      · obtain ⟨item, found, inside⟩ := (leads number rest).mp there
        refine ⟨item, List.mem_of_getElem? found, ?_⟩
        rw [each item (List.mem_of_getElem? found), snd_masked]
        exact ⟨rest, inside⟩

theorem masked_fields {places : Place → Prop} {fields : List (String × JsonValue)}
    {result : String × JsonValue → JsonValue × Bool} {below : String × JsonValue → Place → Prop} (root : ¬ places [])
    (leads : ∀ number rest, places (number :: rest) ↔ ∃ field, fields[number]? = some field ∧ below field rest)
    (each : ∀ field ∈ fields, result field = masked mask (below field) field.2) :
    (.object (fields.map fun field => (field.1, (result field).1)), fields.any fun field => (result field).2) =
      masked mask places (.object fields) := by
  refine (masked_object root (fun number => ?_) ?_).symm
  · rw [List.getElem?_map]
    cases found : fields[number]? with
    | none => rfl
    | some field =>
      rw [Option.map_some, Option.map_some, each field (List.mem_of_getElem? found)]
      refine congrArg some (Prod.ext rfl (congrArg Prod.fst (masked_congr (fun rest => ?_) field.2)))
      rw [leads, found]
      simp
  · rw [List.any_eq_true]
    constructor
    · rintro ⟨field, member, hit⟩
      rw [each field member, snd_masked] at hit
      obtain ⟨rest, there⟩ := hit
      obtain ⟨number, found⟩ := List.mem_iff_getElem?.mp member
      exact ⟨number :: rest, (leads number rest).mpr ⟨field, found, there⟩⟩
    · rintro ⟨_ | ⟨number, rest⟩, there⟩
      · exact absurd there root
      · obtain ⟨field, found, inside⟩ := (leads number rest).mp there
        refine ⟨field, List.mem_of_getElem? found, ?_⟩
        rw [each field (List.mem_of_getElem? found), snd_masked]
        exact ⟨rest, inside⟩

/-! ### The recursive descent -/

theorem not_anywhere_nil (name : String) (document : JsonValue) : ¬ Anywhere name document [] := by
  rintro ⟨before, number, fields, value, whole, -, -⟩
  exact List.append_ne_nil_of_right_ne_nil before (List.cons_ne_nil number []) whole.symm

theorem anywhere_array (name : String) (items : List JsonValue) (number : Nat) (rest : Place) :
    Anywhere name (.array items) (number :: rest) ↔
      ∃ item, items[number]? = some item ∧ Anywhere name item rest := by
  constructor
  · rintro ⟨before, last, fields, value, whole, reached, found⟩
    cases reached with
    | @item _ item _ first before there further =>
      obtain ⟨rfl, rfl⟩ := List.cons.inj whole
      exact ⟨item, there, before, last, fields, value, rfl, further, found⟩
  · rintro ⟨item, there, before, last, fields, value, rfl, further, found⟩
    exact ⟨number :: before, last, fields, value, rfl, .item there further, found⟩

theorem anywhere_object (name : String) (fields : List (String × JsonValue)) (number : Nat) (rest : Place) :
    Anywhere name (.object fields) (number :: rest) ↔
      ∃ field, fields[number]? = some field ∧ (rest = [] ∧ field.1 = name ∨ Anywhere name field.2 rest) := by
  constructor
  · rintro ⟨before, last, others, value, whole, reached, found⟩
    cases reached with
    | here =>
      obtain ⟨rfl, rfl⟩ := List.cons.inj whole
      exact ⟨_, found, Or.inl ⟨rfl, rfl⟩⟩
    | field there further =>
      obtain ⟨rfl, rfl⟩ := List.cons.inj whole
      exact ⟨_, there, Or.inr ⟨_, last, others, value, rfl, further, found⟩⟩
  · rintro ⟨field, there, ⟨rfl, rfl⟩ | ⟨before, last, others, inner, rfl, further, found⟩⟩
    · exact ⟨[], number, fields, field.2, rfl, .here, there⟩
    · exact ⟨number :: before, last, others, inner, rfl, .field there further, found⟩

theorem walkItems_eq (mask : JsonValue) (name : String) (items : List JsonValue) :
    walkItems mask name items = (items.map fun item => (walkRecursive mask name item).1,
      items.any fun item => (walkRecursive mask name item).2) := by
  induction items with
  | nil => rfl
  | cons item items hypothesis =>
    rw [walkItems, hypothesis]
    rfl

def walkField (mask : JsonValue) (name : String) (field : String × JsonValue) : JsonValue × Bool :=
  if field.1 = name then (mask, true) else walkRecursive mask name field.2

theorem walkFields_eq (mask : JsonValue) (name : String) (fields : List (String × JsonValue)) :
    walkFields mask name fields = (fields.map fun field => (field.1, (walkField mask name field).1),
      fields.any fun field => (walkField mask name field).2) := by
  induction fields with
  | nil => rfl
  | cons field fields hypothesis =>
    rw [walkFields, hypothesis]
    rfl

/-- A descent masks every field of the name. -/
theorem walkRecursive_eq (mask : JsonValue) (name : String) (document : JsonValue) :
    walkRecursive mask name document = masked mask (Anywhere name document) document := by
  induction document using JsonValue.nested with
  | scalar node array object =>
    have walked : walkRecursive mask name node = (node, false) := by
      cases node with
      | array items => exact absurd rfl (array items)
      | object fields => exact absurd rfl (object fields)
      | null | bool | number | string => rfl
    rw [walked, masked_none]
    rintro place ⟨before, number, fields, value, -, reached, -⟩
    cases reached with
    | here => exact object fields rfl
    | item => exact array _ rfl
    | field => exact object _ rfl
  | array items each =>
    rw [walkRecursive, walkItems_eq]
    exact masked_items (not_anywhere_nil name _) (anywhere_array name items) each
  | object fields each =>
    rw [walkRecursive, walkFields_eq]
    refine masked_fields (not_anywhere_nil name _) (anywhere_object name fields) fun field member => ?_
    rw [walkField]
    split
    case isTrue same => exact (masked_root (Or.inl ⟨rfl, same⟩) field.2).symm
    case isFalse differ =>
      rw [each field member]
      exact masked_congr (fun rest => (or_iff_right fun both => differ both.2).symm) field.2

end Walks

theorem value_of_walkRecursive (text name : String) (document : JsonValue) {place : Place}
    {fields : List (String × JsonValue)} {value : JsonValue}
    (reached : At (walkRecursive (.string text) name document).1 place (.object fields))
    (member : (name, value) ∈ fields) : value = .string text := by
  induction document using JsonValue.nested generalizing place with
  | scalar node array object =>
    cases node with
    | array items => exact absurd rfl (array items)
    | object fields => exact absurd rfl (object fields)
    | null | bool | number | string => cases reached
  | array items each =>
    rw [walkRecursive, walkItems_eq] at reached
    cases reached with
    | item found further =>
      rw [List.getElem?_map, Option.map_eq_some_iff] at found
      obtain ⟨item, found, rfl⟩ := found
      exact each item (List.mem_of_getElem? found) further
  | object own each =>
    rw [walkRecursive, walkFields_eq] at reached
    cases reached with
    | here =>
      obtain ⟨field, present, same⟩ := List.mem_map.mp member
      obtain ⟨rfl, rfl⟩ := Prod.mk.inj same
      rw [walkField, if_pos rfl]
    | field found further =>
      rw [List.getElem?_map, Option.map_eq_some_iff] at found
      obtain ⟨field, found, same⟩ := found
      obtain ⟨rfl, rfl⟩ := Prod.mk.inj same
      rw [walkField] at further
      split at further
      · cases further
      · exact each field (List.mem_of_getElem? found) further

/-! ### The walk along steps -/

section Steps

variable {mask : JsonValue} {rest : List Step}

/-- What the walk puts in the place of a value that the first step leads to. -/
def replaced (mask : JsonValue) (rest : List Step) (value : JsonValue) : JsonValue × Bool :=
  if rest.map Step.segment = [] then (mask, true) else walkPath mask (rest.map Step.segment) value

theorem not_denotes_nil {step : Step} {node : JsonValue} : ¬ Denotes (step :: rest) node [] := by
  rintro ⟨⟩

theorem denotes_key_iff {name : String} {fields : List (String × JsonValue)} {number : Nat} {place : Place} :
    Denotes (.key name :: rest) (.object fields) (number :: place) ↔
      ∃ field, fields[number]? = some field ∧ field.1 = name ∧ Denotes rest field.2 place := by
  constructor
  · rintro ⟨⟩
    exact ⟨_, ‹_›, rfl, ‹_›⟩
  · rintro ⟨⟨own, value⟩, found, rfl, further⟩
    exact .key found further

theorem denotes_all_iff {items : List JsonValue} {number : Nat} {place : Place} :
    Denotes (.all :: rest) (.array items) (number :: place) ↔
      ∃ item, items[number]? = some item ∧ Denotes rest item place := by
  constructor
  · rintro ⟨⟩
    exact ⟨_, ‹_›, ‹_›⟩
  · rintro ⟨value, found, further⟩
    exact .all found further

theorem denotes_item_iff {index : Int} {items : List JsonValue} {number : Nat} {place : Place} :
    Denotes (.item index :: rest) (.array items) (number :: place) ↔
      (number : Int) = (if index < 0 then items.length + index else index) ∧
        ∃ item, items[number]? = some item ∧ Denotes rest item place := by
  constructor
  · rintro ⟨⟩
    exact ⟨‹_›, _, ‹_›, ‹_›⟩
  · rintro ⟨counted, value, found, further⟩
    exact .item found counted further

theorem walkPath_key {name : String} {fields : List (String × JsonValue)}
    (inner : ∀ value, replaced mask rest value = masked mask (Denotes rest value) value) :
    walkPath mask (Step.segment (.key name) :: rest.map Step.segment) (.object fields) =
      masked mask (Denotes (.key name :: rest) (.object fields)) (.object fields) := by
  have one (field : String × JsonValue) :
      (if field.1 = name then replaced mask rest field.2 else (field.2, false)) =
        masked mask (fun place => field.1 = name ∧ Denotes rest field.2 place) field.2 := by
    split
    case isTrue same =>
      rw [inner]
      exact masked_congr (fun place => (and_iff_right same).symm) field.2
    case isFalse differ => exact (masked_none (fun place both => differ both.1) field.2).symm
  rw [Step.segment, walkPath, List.map_map, List.any_map]
  exact masked_fields not_denotes_nil (fun _ _ => denotes_key_iff) fun field _ => one field

theorem walkPath_all {items : List JsonValue}
    (inner : ∀ value, replaced mask rest value = masked mask (Denotes rest value) value) :
    walkPath mask (Step.segment .all :: rest.map Step.segment) (.array items) =
      masked mask (Denotes (.all :: rest) (.array items)) (.array items) := by
  rw [Step.segment, walkPath, List.map_map, List.any_map]
  exact masked_items not_denotes_nil (fun _ _ => denotes_all_iff) fun item _ => inner item

theorem walkPath_item {index : Int} {items : List JsonValue}
    (inner : ∀ value, replaced mask rest value = masked mask (Denotes rest value) value) :
    walkPath mask (Step.segment (.item index) :: rest.map Step.segment) (.array items) =
      masked mask (Denotes (.item index :: rest) (.array items)) (.array items) := by
  rw [Step.segment, walkPath]
  generalize counted : (if index < 0 then (items.length : Int) + index else index) = wanted
  have denotes (number : Nat) (place : Place) : Denotes (.item index :: rest) (.array items) (number :: place) ↔
      (number : Int) = wanted ∧ ∃ item, items[number]? = some item ∧ Denotes rest item place := by
    rw [denotes_item_iff, counted]
  by_cases negative : wanted < 0
  · rw [if_pos negative, masked_none]
    rintro (_ | ⟨number, place⟩) there
    · exact absurd there not_denotes_nil
    · have := ((denotes number place).mp there).1
      omega
  · obtain ⟨chosen, rfl⟩ := Int.eq_ofNat_of_zero_le (not_lt.mp negative)
    rw [if_neg negative, Int.toNat_natCast]
    cases found : items[chosen]? with
    | none =>
      refine (masked_none ?_ _).symm
      rintro (_ | ⟨number, place⟩) there
      · exact absurd there not_denotes_nil
      · obtain ⟨same, item, present, -⟩ := (denotes number place).mp there
        rw [Int.ofNat_inj.mp same, found] at present
        cases present
    | some item =>
      refine (masked_array not_denotes_nil (fun number => ?_) ?_).symm
      · by_cases same : number = chosen
        · subst same
          obtain ⟨inside, -⟩ := List.getElem?_eq_some_iff.mp found
          rw [List.getElem?_set_self inside, found]
          refine congrArg some ((congrArg Prod.fst (inner item)).trans ?_)
          refine congrArg Prod.fst (masked_congr (fun place => ?_) item)
          rw [denotes, found]
          simp
        · rw [List.getElem?_set_ne (Ne.symm same)]
          cases items[number]? with
          | none => rfl
          | some other =>
            refine congrArg some (congrArg Prod.fst (masked_none (fun place there => ?_) other)).symm
            exact same (Int.ofNat_inj.mp ((denotes number place).mp there).1)
      · rw [show (if rest.map Step.segment = [] then (mask, true)
          else walkPath mask (rest.map Step.segment) item).2 = (replaced mask rest item).2 from rfl,
          inner, snd_masked]
        constructor
        · rintro ⟨place, there⟩
          exact ⟨chosen :: place, (denotes chosen place).mpr ⟨rfl, item, found, there⟩⟩
        · rintro ⟨_ | ⟨number, place⟩, there⟩
          · exact absurd there not_denotes_nil
          · obtain ⟨same, other, present, below⟩ := (denotes number place).mp there
            rw [Int.ofNat_inj.mp same, found] at present
            exact ⟨place, Option.some.inj present ▸ below⟩

theorem replaced_eq (mask : JsonValue) (steps : List Step) :
    ∀ value, replaced mask steps value = masked mask (Denotes steps value) value := by
  induction steps with
  | nil => exact fun value => (masked_root .done value).symm
  | cons step rest inner =>
    intro value
    have walked : replaced mask (step :: rest) value =
        walkPath mask (step.segment :: rest.map Step.segment) value :=
      if_neg (List.cons_ne_nil _ _)
    have nothing (other : ¬ ∃ place, Denotes (step :: rest) value place)
        (same : walkPath mask (step.segment :: rest.map Step.segment) value = (value, false)) :
        walkPath mask (step.segment :: rest.map Step.segment) value =
          masked mask (Denotes (step :: rest) value) value := by
      rw [same, masked_none fun place there => other ⟨place, there⟩]
    rw [walked]
    cases step with
    | key name =>
      cases value with
      | object fields => exact walkPath_key inner
      | _ => exact nothing (by rintro ⟨_, ⟨⟩⟩) rfl
    | item index =>
      cases value with
      | array items => exact walkPath_item inner
      | _ => exact nothing (by rintro ⟨_, ⟨⟩⟩) rfl
    | all =>
      cases value with
      | array items => exact walkPath_all inner
      | _ => exact nothing (by rintro ⟨_, ⟨⟩⟩) rfl

theorem walkPath_steps (mask : JsonValue) {steps : List Step} (some : steps ≠ []) (document : JsonValue) :
    walkPath mask (steps.map Step.segment) document = masked mask (Denotes steps document) document := by
  rw [← replaced_eq, replaced, if_neg (mt List.map_eq_nil_iff.mp some)]

end Steps

/-! ### The documented grammar -/

/-- The number that digits spell. -/
def decimalValue (digits : List Char) : Nat :=
  digits.foldl (fun value digit => value * 10 + (digit.toNat - 48)) 0

/-- Decimal digits that fit into an `int`. -/
def IsIndex (digits : List Char) : Prop :=
  digits ≠ [] ∧ (∀ digit ∈ digits, '0' ≤ digit ∧ digit ≤ '9') ∧ decimalValue digits < 2 ^ 63

/-- A name without dots and brackets. -/
def IsName (name : List Char) : Prop :=
  name ≠ [] ∧ '.' ∉ name ∧ '[' ∉ name

/-- The letters of one step. -/
inductive Spells : List Char → Step → Prop
  | key {name : List Char} (isName : IsName name) : Spells ('.' :: name) (.key (String.ofList name))
  | item {digits : List Char} (isIndex : IsIndex digits) :
      Spells ('[' :: (digits ++ [']'])) (.item (decimalValue digits))
  | fromEnd {digits : List Char} (isIndex : IsIndex digits) :
      Spells ('[' :: '-' :: (digits ++ [']'])) (.item (-decimalValue digits))
  | all : Spells ['[', '*', ']'] .all

inductive SpellsAll : List Char → List Step → Prop
  | nil : SpellsAll [] []
  | cons {text rest : List Char} {step : Step} {steps : List Step} (first : Spells text step)
      (others : SpellsAll rest steps) : SpellsAll (text ++ rest) (step :: steps)

/-- The paths of the documented grammar. -/
inductive DocumentedPath
  | root
  | steps (steps : List Step)
  | anywhere (name : String)

/-- The places of the nodes that a path denotes. -/
def DocumentedPath.places : DocumentedPath → JsonValue → Place → Prop
  | .root, _ => fun place => place = []
  | .steps listed, document => Denotes listed document
  | .anywhere name, document => Anywhere name document

/-- The text is this path of the documented grammar. -/
inductive Documented : String → DocumentedPath → Prop
  | root : Documented "$" .root
  | steps {text : List Char} {steps : List Step} (spelled : SpellsAll text steps) (some : steps ≠ []) :
      Documented (String.ofList ('$' :: text)) (.steps steps)
  | anywhere {name : List Char} (isName : IsName name) :
      Documented (String.ofList ('$' :: '.' :: '.' :: name)) (.anywhere (String.ofList name))

/-! ### The parser -/

section Parser

theorem parseSegments_of_some {path rest : List Char} {segment : PathSegment}
    (found : nextSegment path = some (segment, rest)) :
    parseSegments path = segment :: parseSegments rest := by
  rw [parseSegments]
  split
  · rename_i none
    rw [none] at found
    cases found
  · rename_i other remaining some
    rw [some] at found
    obtain ⟨rfl, rfl⟩ := Prod.mk.inj (Option.some.inj found)
    rfl

theorem parseSegments_of_none {path : List Char} (ended : nextSegment path = none) :
    parseSegments path = [] := by
  rw [parseSegments]
  split
  · rfl
  · rename_i segment rest some
    rw [some] at ended
    cases ended

theorem indexDigits_eq {digits : List Char} (isIndex : IsIndex digits) :
    indexDigits digits = decimalValue digits := by
  obtain ⟨-, decimal, small⟩ := isIndex
  have grows (start : Nat) (digits : List Char) :
      start ≤ digits.foldl (fun value digit => value * 10 + (digit.toNat - 48)) start := by
    induction digits generalizing start with
    | nil => exact le_rfl
    | cons digit digits hypothesis =>
      have more : start ≤ start * 10 + (digit.toNat - 48) := by omega
      exact more.trans (hypothesis _)
  have same (start : Nat) (digits : List Char)
      (small : digits.foldl (fun value digit => value * 10 + (digit.toNat - 48)) start < 2 ^ 63) :
      digits.foldl (fun index char => Int.bmod (index * 10 + (char.toNat - 48 : Nat)) (2 ^ 64)) (start : Int) =
        (digits.foldl (fun value digit => value * 10 + (digit.toNat - 48)) start : Nat) := by
    induction digits generalizing start with
    | nil => rfl
    | cons digit digits hypothesis =>
      rw [List.foldl_cons, List.foldl_cons, ← hypothesis _ small]
      have below := (grows (start * 10 + (digit.toNat - 48)) digits).trans_lt small
      have exact : Int.bmod ((start : Int) * 10 + (digit.toNat - 48 : Nat)) (2 ^ 64) =
          ((start * 10 + (digit.toNat - 48) : Nat) : Int) := by
        rw [Int.bmod_eq_of_le (by omega) (by push_cast at below ⊢; omega)]
        push_cast
        rfl
      rw [exact]
  rw [indexDigits, if_pos (by simpa using decimal)]
  exact same 0 digits small

theorem takeWhile_append_stop {keep : Char → Bool} {text more : List Char}
    (kept : ∀ char ∈ text, keep char = true)
    (stops : ∀ char ∈ more.head?, keep char = false) :
    (text ++ more).takeWhile keep = text ∧ (text ++ more).dropWhile keep = more := by
  rw [List.takeWhile_append_of_pos kept, List.dropWhile_append_of_pos kept]
  cases more with
  | nil => exact ⟨List.append_nil text, rfl⟩
  | cons char more =>
    have stop := stops char rfl
    rw [List.takeWhile_cons_of_neg (by simp [stop]), List.dropWhile_cons_of_neg (by simp [stop])]
    exact ⟨List.append_nil text, rfl⟩

/-- What may stand behind a step: nothing, a dot or a bracket. -/
def Follows (more : List Char) : Prop :=
  ∀ char ∈ more.head?, char = '.' ∨ char = '['

theorem nextSegment_bracket {body more : List Char} (inside : ']' ∉ body) :
    nextSegment ('[' :: (body ++ ']' :: more)) = some (bracketSegment body, trimDot more) := by
  obtain ⟨taken, dropped⟩ := @takeWhile_append_stop (· != ']') body (']' :: more)
    (fun char member => by
      rw [bne_iff_ne]
      rintro rfl
      exact inside member)
    (fun char first => by
      obtain rfl : ']' = char := Option.some.inj first
      rfl)
  rw [nextSegment, dropped, taken]

theorem nextSegment_name {name more : List Char} (isName : IsName name) (follows : Follows more) :
    nextSegment (name ++ more) = some (.key (String.ofList name), trimDot more) := by
  obtain ⟨taken, dropped⟩ := @takeWhile_append_stop (fun char => char != '.' && char != '[') name more
    (fun char member => by
      rw [Bool.and_eq_true, bne_iff_ne, bne_iff_ne]
      exact ⟨fun same => isName.2.1 (same ▸ member), fun same => isName.2.2 (same ▸ member)⟩)
    (fun char first => by
      rcases follows char first with rfl | rfl <;> rfl)
  cases name with
  | nil => exact absurd rfl isName.1
  | cons first name =>
    have bracket : first ≠ '[' := fun same => isName.2.2 (same ▸ List.mem_cons_self)
    rw [List.cons_append] at taken dropped ⊢
    rw [nextSegment]
    · simp only [taken, dropped]
      cases more <;> rfl
    · exact bracket

theorem bracketSegment_digits {digits : List Char} (isIndex : IsIndex digits) :
    bracketSegment digits = .index (decimalValue digits) := by
  rw [← indexDigits_eq isIndex]
  obtain ⟨-, decimal, -⟩ := isIndex
  unfold bracketSegment
  split
  · exact absurd (decimal '*' List.mem_cons_self) (by decide)
  · exact absurd (decimal '-' List.mem_cons_self) (by decide)
  · rfl

theorem bmod_neg_decimalValue {digits : List Char} (isIndex : IsIndex digits) :
    Int.bmod (-(decimalValue digits : Int)) (2 ^ 64) = -decimalValue digits := by
  have small := isIndex.2.2
  rw [Int.bmod_eq_of_le (by omega) (by omega)]

theorem bracket_notMem {digits : List Char} (isIndex : IsIndex digits) : ']' ∉ digits := fun member =>
  absurd (isIndex.2.1 ']' member) (by decide)

theorem follows_of_spellsAll {text : List Char} {steps : List Step} (spelled : SpellsAll text steps) :
    Follows text := by
  cases spelled with
  | nil => exact fun _ first => nomatch first
  | cons first others =>
    intro char here
    cases first with
    | key => exact Or.inl (Option.some.inj here).symm
    | item | fromEnd | all => exact Or.inr (Option.some.inj here).symm

theorem parseSegments_spelled {text : List Char} {steps : List Step} (spelled : SpellsAll text steps) :
    parseSegments (trimDot text) = steps.map Step.segment := by
  induction spelled with
  | nil => exact parseSegments_of_none rfl
  | @cons text rest step steps first others hypothesis =>
    have follows := follows_of_spellsAll others
    rw [List.map_cons, ← hypothesis]
    cases first with
    | key isName => exact parseSegments_of_some (nextSegment_name isName follows)
    | @item digits isIndex =>
      have found := @nextSegment_bracket digits rest (bracket_notMem isIndex)
      rw [bracketSegment_digits isIndex] at found
      show parseSegments ('[' :: (digits ++ [']'] ++ rest)) = _
      rw [List.append_assoc]
      exact parseSegments_of_some found
    | @fromEnd digits isIndex =>
      have found := @nextSegment_bracket ('-' :: digits) rest
        (List.not_mem_cons_of_ne_of_not_mem (by decide) (bracket_notMem isIndex))
      rw [show bracketSegment ('-' :: digits) = .index (-decimalValue digits) from
        (congrArg (fun index => PathSegment.index (Int.bmod (-index) (2 ^ 64))) (indexDigits_eq isIndex)).trans
          (congrArg PathSegment.index (bmod_neg_decimalValue isIndex))] at found
      show parseSegments ('[' :: '-' :: (digits ++ [']'] ++ rest)) = _
      rw [List.append_assoc]
      exact parseSegments_of_some found
    | all => exact parseSegments_of_some (@nextSegment_bracket ['*'] rest (by decide))

theorem parsePath_ofList (text : List Char) : parsePath (String.ofList text) =
    match text with
    | [] => []
    | ['$'] => [.root]
    | '$' :: '.' :: '.' :: key => [.recursive (String.ofList key)]
    | '.' :: '.' :: key => [.recursive (String.ofList key)]
    | '$' :: rest => parseSegments (trimDot rest)
    | rest => parseSegments (trimDot rest) := by
  rewrite [parsePath, String.toList_ofList]
  rfl

theorem parsePath_steps {text : List Char} {steps : List Step} (spelled : SpellsAll text steps)
    (some : steps ≠ []) : parsePath (String.ofList ('$' :: text)) = steps.map Step.segment := by
  rw [← parseSegments_spelled spelled, parsePath_ofList]
  cases spelled with
  | nil => exact absurd rfl some
  | cons first others =>
    cases first with
    | @key name isName =>
      obtain ⟨nonempty, noDot, -⟩ := isName
      cases name with
      | nil => exact absurd rfl nonempty
      | cons char name =>
        have notDot : char ≠ '.' := fun same => noDot (same ▸ List.mem_cons_self)
        rw [List.cons_append, List.cons_append]
        split <;> simp_all
    | item | fromEnd | all => rfl

/-- The openings that the parser drops. -/
def openings : List (List Char) := [[], ['.'], ['$'], ['$', '.']]

theorem parsePath_cases (path : String) :
    path = "$" ∨ (∃ key, parsePath path = [.recursive key]) ∨
      ∃ opening ∈ openings, ∃ text, path.toList = opening ++ text ∧ parsePath path = parseSegments text ∧
        (path.toList.head? = some '$' → opening ≠ []) := by
  obtain ⟨chars, rfl⟩ : ∃ chars, path = String.ofList chars := ⟨path.toList, String.ofList_toList.symm⟩
  rw [parsePath_ofList, String.toList_ofList]
  have dropped (text : List Char) : text = trimDot text ∨ text = '.' :: trimDot text := by
    unfold trimDot
    split
    · exact Or.inr rfl
    · exact Or.inl rfl
  split
  · exact Or.inr (Or.inr ⟨[], by decide, [], rfl, (parseSegments_of_none rfl).symm, nofun⟩)
  · exact Or.inl rfl
  · exact Or.inr (Or.inl ⟨_, rfl⟩)
  · exact Or.inr (Or.inl ⟨_, rfl⟩)
  · rename_i rest _ _
    rcases dropped rest with same | same
    · exact Or.inr (Or.inr ⟨['$'], by decide, trimDot rest, congrArg (List.cons '$') same, rfl, fun _ => by decide⟩)
    · exact Or.inr (Or.inr
        ⟨['$', '.'], by decide, trimDot rest, congrArg (List.cons '$') same, rfl, fun _ => by decide⟩)
  · rename_i dollar
    have other : chars.head? ≠ some '$' := fun first => by
      obtain ⟨rest, shape⟩ := List.head?_eq_some_iff.mp first
      exact dollar rest shape
    rcases dropped chars with same | same
    · exact Or.inr (Or.inr ⟨[], by decide, trimDot chars, same, rfl, fun first => absurd first other⟩)
    · exact Or.inr (Or.inr ⟨['.'], by decide, trimDot chars, same, rfl, fun _ => by decide⟩)

theorem segment_of_nextSegment {text rest : List Char} {segment : PathSegment}
    (found : nextSegment text = some (segment, rest)) : ∃ step : Step, segment = step.segment := by
  have bracket (body : List Char) : ∃ step : Step, bracketSegment body = step.segment := by
    unfold bracketSegment
    split
    · exact ⟨.all, rfl⟩
    · exact ⟨.item _, rfl⟩
    · exact ⟨.item _, rfl⟩
  unfold nextSegment at found
  split at found
  · cases found
  · split at found
    · cases found
    · rw [← (Prod.mk.inj (Option.some.inj found)).1]
      exact bracket _
  · dsimp only at found
    split at found
    · exact ⟨.key _, (Prod.mk.inj (Option.some.inj found)).1.symm⟩
    · exact ⟨.key _, (Prod.mk.inj (Option.some.inj found)).1.symm⟩

theorem exists_steps (text : List Char) :
    ∃ steps : List Step, parseSegments text = steps.map Step.segment := by
  induction text using parseSegments.induct with
  | case1 text ended => exact ⟨[], parseSegments_of_none ended⟩
  | case2 text segment rest found hypothesis =>
    obtain ⟨steps, same⟩ := hypothesis
    obtain ⟨step, rfl⟩ := segment_of_nextSegment found
    exact ⟨step :: steps, by rw [parseSegments_of_some found, same]; rfl⟩

theorem parseSegments_eq_nil {text : List Char} (none : parseSegments text = []) :
    text = [] ∨ text.head? = some '[' ∧ ']' ∉ text := by
  cases found : nextSegment text with
  | some next =>
    obtain ⟨segment, rest⟩ := next
    rw [parseSegments_of_some found] at none
    cases none
  | none =>
    unfold nextSegment at found
    split at found
    · exact Or.inl rfl
    · rename_i rest
      split at found
      · rename_i dropped
        refine Or.inr ⟨rfl, List.not_mem_cons_of_ne_of_not_mem (by decide) fun member => ?_⟩
        exact absurd (List.dropWhile_eq_nil_iff.mp dropped _ member) (by decide)
      · cases found
    · dsimp only at found
      split at found <;> cases found

theorem parseSegments_key {text : List Char} {name : String} {steps : List Step}
    (parsed : parseSegments text = Step.segment (.key name) :: steps.map Step.segment)
    (long : text.length ≤ name.toList.length) : text = name.toList ∧ IsName name.toList := by
  cases found : nextSegment text with
  | none =>
    rw [parseSegments_of_none found] at parsed
    cases parsed
  | some next =>
    obtain ⟨segment, rest⟩ := next
    rw [parseSegments_of_some found] at parsed
    obtain rfl := (List.cons.inj parsed).1
    have whole : ∃ first others, text = first :: others ∧
        name.toList = text.takeWhile fun char => char != '.' && char != '[' := by
      unfold nextSegment at found
      split at found
      · cases found
      · split at found
        · cases found
        · rename_i others _ after _
          have bracket := (Prod.mk.inj (Option.some.inj found)).1
          unfold bracketSegment at bracket
          split at bracket <;> cases bracket
      · rename_i first others _
        dsimp only at found
        refine ⟨first, others, rfl, ?_⟩
        split at found
        · rw [← PathSegment.key.inj (Prod.mk.inj (Option.some.inj found)).1, String.toList_ofList]
        · rw [← PathSegment.key.inj (Prod.mk.inj (Option.some.inj found)).1, String.toList_ofList]
    obtain ⟨first, others, shape, taken⟩ := whole
    have all : name.toList = text := by
      rw [taken] at long ⊢
      exact (List.takeWhile_prefix _).eq_of_length_le long
    have kept : ∀ char ∈ text, (char != '.' && char != '[') = true :=
      List.takeWhile_eq_self_iff.mp (taken.symm.trans all)
    refine ⟨all.symm, ?_, ?_, ?_⟩
    · rw [all, shape]
      exact List.cons_ne_nil _ _
    · rw [all]
      exact fun member => absurd (kept '.' member) (by decide)
    · rw [all]
      exact fun member => absurd (kept '[' member) (by decide)

end Parser

/-! ### Exact masking -/

/-- A name of a root field that is not a path: without dots and brackets, and without a dollar in front. -/
def Bare (path : String) : Prop :=
  IsName path.toList ∧ path.toList.head? ≠ some '$'

/-- A text of which nothing is read: behind an opening it is empty, or has a bracket in front and none
that closes. -/
def Silent (path : String) : Prop :=
  ∃ opening ∈ openings, ∃ text, path.toList = opening ++ text ∧
    (text = [] ∨ text.head? = some '[' ∧ ']' ∉ text)

/-- The document with the root field of this name masked, if it is an object that has one. -/
def maskRootField (mask : JsonValue) (name : String) : JsonValue → Option JsonValue
  | .object fields =>
    if fields.any fun field => field.1 = name then
      some (.object (fields.map fun field => if field.1 = name then (field.1, mask) else field))
    else none
  | _ => none

/-- The masking along a path is exact. If the path is one of the documented grammar, then in every document the code
replaces the nodes that it denotes, no others, and something exactly if there is one; and a descent
leaves no field of its name with another value. If it is not, the code replaces nothing but a root
field with the path for its name. -/
structure MasksExactly (path : String) : Prop where
  denoted : ∀ expr, Documented path expr → ∀ (library : RedactionLibrary) (payload : Bytes)
    (document : JsonValue) (mask : String), payload ≠ [] → library.unmarshal payload = some document →
      (library.applyJSONPath payload path mask =
        if (masked (.string mask) (expr.places document) document).2 then
          library.marshal (masked (.string mask) (expr.places document) document).1
        else none) ∧
      ∀ name, expr = .anywhere name → ∀ place fields value,
        At (masked (.string mask) (expr.places document) document).1 place (.object fields) →
          (name, value) ∈ fields → value = .string mask
  literal : (¬ ∃ expr, Documented path expr) → ∀ (library : RedactionLibrary) (payload : Bytes)
    (document : JsonValue) (mask : String), payload ≠ [] → library.unmarshal payload = some document →
      library.applyJSONPath payload path mask = none ∨
        ∃ result, maskRootField (.string mask) path document = some result ∧
          library.applyJSONPath payload path mask = library.marshal result

theorem applyJSONPath_eq {library : RedactionLibrary} {payload : Bytes} {document : JsonValue}
    (nonempty : payload ≠ []) (decoded : library.unmarshal payload = some document) (path mask : String) :
    library.applyJSONPath payload path mask =
      if (walkPath (.string mask) (parsePath path) document).2 then
        library.marshal (walkPath (.string mask) (parsePath path) document).1
      else none := by
  rw [RedactionLibrary.applyJSONPath, if_neg nonempty, decoded]
  rfl

/-- A documented path masks the nodes that it denotes. -/
theorem walkPath_documented {path : String} {expr : DocumentedPath} (documented : Documented path expr)
    (mask document : JsonValue) :
    walkPath mask (parsePath path) document = masked mask (expr.places document) document := by
  cases documented with
  | root =>
    show (mask, true) = masked mask (fun place => place = []) document
    exact (@masked_root mask (fun place => place = []) rfl document).symm
  | steps spelled nonempty =>
    rw [parsePath_steps spelled nonempty, walkPath_steps mask nonempty]
    rfl
  | @anywhere name isName =>
    rw [parsePath_ofList]
    exact walkRecursive_eq mask (String.ofList name) document

/-- A bare path is one key. -/
theorem parsePath_bare {path : String} (bare : Bare path) : parsePath path = [.key path] := by
  obtain ⟨chars, rfl⟩ : ∃ chars, path = String.ofList chars := ⟨path.toList, String.ofList_toList.symm⟩
  obtain ⟨isName, noDollar⟩ := bare
  rw [String.toList_ofList] at isName noDollar
  have undotted : trimDot chars = chars := by
    unfold trimDot
    split
    · exact absurd List.mem_cons_self isName.2.1
    · rfl
  have found := @nextSegment_name chars [] isName fun _ first => nomatch first
  rw [List.append_nil] at found
  have segments : parseSegments chars = [.key (String.ofList chars)] := by
    rw [parseSegments_of_some found]
    exact congrArg _ (parseSegments_of_none rfl)
  rw [parsePath_ofList]
  split
  · exact absurd rfl isName.1
  · exact absurd rfl noDollar
  · exact absurd rfl noDollar
  · exact absurd List.mem_cons_self isName.2.1
  · exact absurd rfl noDollar
  · rw [undotted]
    exact segments

theorem parsePath_silent {path : String} (silent : Silent path) (root : path ≠ "$") : parsePath path = [] := by
  obtain ⟨opening, known, text, shape, ended⟩ := silent
  have unread : parseSegments text = [] := by
    rcases ended with rfl | ⟨first, inside⟩
    · exact parseSegments_of_none rfl
    · obtain ⟨rest, rfl⟩ := List.head?_eq_some_iff.mp first
      refine parseSegments_of_none ?_
      rw [nextSegment, List.dropWhile_eq_nil_iff.mpr]
      intro char member
      rw [bne_iff_ne]
      rintro rfl
      exact inside (List.mem_cons_of_mem _ member)
  obtain ⟨chars, rfl⟩ : ∃ chars, path = String.ofList chars := ⟨path.toList, String.ofList_toList.symm⟩
  rw [String.toList_ofList] at shape
  obtain rfl := shape
  rw [parsePath_ofList]
  rcases ended with rfl | ⟨first, -⟩
  · simp only [openings, List.mem_cons, List.not_mem_nil, or_false] at known
    rcases known with rfl | rfl | rfl | rfl
    · rfl
    · exact parseSegments_of_none rfl
    · exact absurd rfl root
    · exact parseSegments_of_none rfl
  · obtain ⟨rest, rfl⟩ := List.head?_eq_some_iff.mp first
    simp only [openings, List.mem_cons, List.not_mem_nil, or_false] at known
    rcases known with rfl | rfl | rfl | rfl <;> exact unread

theorem walkPath_bare (mask : JsonValue) (name : String) (document : JsonValue) :
    (walkPath mask [.key name] document).2 = false ∨
      maskRootField mask name document = some (walkPath mask [.key name] document).1 := by
  cases document with
  | object fields =>
    rw [walkPath, maskRootField]
    have same (field : String × JsonValue) : (field.1, (if field.1 = name then (mask, true)
        else (field.2, false)).1) = if field.1 = name then (field.1, mask) else field := by
      split
      · rfl
      · rfl
    have hit (field : String × JsonValue) : (if field.1 = name then (mask, true) else (field.2, false)).2 =
        decide (field.1 = name) := by
      split
      case isTrue named => exact (decide_eq_true named).symm
      case isFalse differ => exact (decide_eq_false differ).symm
    simp only [if_true, List.map_map, List.any_map, Function.comp_def, same, hit]
    cases fields.any fun field => decide (field.1 = name) with
    | false => exact Or.inl rfl
    | true => exact Or.inr (if_pos rfl)
  | _ => exact Or.inl rfl

/-! ### Other texts -/

/-- A document in which the steps lead somewhere. -/
def realize : List Step → JsonValue
  | [] => .null
  | .key name :: rest => .object [(name, realize rest)]
  | .item index :: rest =>
    if index < 0 then .array (realize rest :: List.replicate (-index - 1).toNat .null)
    else .array (List.replicate index.toNat .null ++ [realize rest])
  | .all :: rest => .array [realize rest]

theorem denotes_realize (steps : List Step) : ∃ place, Denotes steps (realize steps) place := by
  induction steps with
  | nil => exact ⟨[], .done⟩
  | cons step rest hypothesis =>
    obtain ⟨place, there⟩ := hypothesis
    cases step with
    | key name => exact ⟨0 :: place, .key rfl there⟩
    | all => exact ⟨0 :: place, .all rfl there⟩
    | item index =>
      rw [realize]
      split
      case isTrue negative =>
        refine ⟨0 :: place, .item rfl ?_ there⟩
        rw [if_pos negative, List.length_cons, List.length_replicate]
        omega
      case isFalse natural =>
        refine ⟨index.toNat :: place, .item ?_ ?_ there⟩
        · rw [List.getElem?_append_right (List.length_replicate ..).le, List.length_replicate, Nat.sub_self]
          rfl
        · rw [if_neg natural]
          omega

/-- A library that reads this document and writes any. -/
def readerOf (document : JsonValue) : RedactionLibrary where
  compileRegex _ := none
  unmarshal _ := some document
  marshal _ := some [0]

theorem maskRootField_of_masksExactly {path : String} (exactly : MasksExactly path)
    (outside : ¬ ∃ expr, Documented path expr) (document : JsonValue)
    (hit : (walkPath (.string "") (parsePath path) document).2 = true) :
    (maskRootField (.string "") path document).isSome := by
  have applied := @applyJSONPath_eq (readerOf document) [0] document (List.cons_ne_nil _ _) rfl path ""
  rw [if_pos hit] at applied
  rcases exactly.literal outside (readerOf document) [0] document "" (List.cons_ne_nil _ _) rfl with
    nothing | ⟨result, named, -⟩
  · rw [nothing] at applied
    cases applied
  · rw [named]
    rfl

/-- A path outside of the grammar is bare or masks nothing. -/
theorem bare_or_silent {path : String} (exactly : MasksExactly path)
    (outside : ¬ ∃ expr, Documented path expr) : Bare path ∨ Silent path := by
  have named := maskRootField_of_masksExactly exactly outside
  rcases parsePath_cases path with rfl | ⟨key, parsed⟩ | ⟨opening, known, text, shape, parsed, dollar⟩
  · exact absurd ⟨_, .root⟩ outside
  · -- a descent finds the name below the root
    have hit : (walkPath (.string "") (parsePath path) (.array [.object [(key, .null)]])).2 = true := by
      rw [parsed, walkPath, walkRecursive_eq, snd_masked]
      exact ⟨[0, 0], [0], 0, [(key, .null)], .null, rfl, .item rfl .here, rfl⟩
    exact absurd (named _ hit) Bool.false_ne_true
  · obtain ⟨steps, same⟩ := exists_steps text
    cases steps with
    | nil => exact Or.inr ⟨opening, known, text, shape, parseSegments_eq_nil same⟩
    | cons step rest =>
      have hit : (walkPath (.string "") (parsePath path) (realize (step :: rest))).2 = true := by
        rw [parsed, same, walkPath_steps _ (List.cons_ne_nil _ _), snd_masked]
        exact denotes_realize _
      have root := named _ hit
      cases step with
      | all => exact absurd root Bool.false_ne_true
      | item index =>
        rw [realize] at root
        split at root <;> exact absurd root Bool.false_ne_true
      | key name =>
        obtain rfl : name = path := by
          by_contra differ
          rw [realize, maskRootField, if_neg (by simpa using differ)] at root
          exact absurd root Bool.false_ne_true
        rw [List.map_cons] at same
        obtain ⟨whole, isName⟩ := parseSegments_key same (by rw [shape, List.length_append]; omega)
        refine Or.inl ⟨isName, fun first => dollar first ?_⟩
        rw [whole] at shape
        exact List.self_eq_append_left.mp shape

/-- A path masks exactly what it says when it is of the documented grammar, or a bare name, or a text of
which nothing is read; every other text masks something that is no root field of its name. -/
theorem masksExactly_iff (path : String) :
    MasksExactly path ↔ (∃ expr, Documented path expr) ∨ Bare path ∨ Silent path := by
  constructor
  · intro exactly
    by_cases inside : ∃ expr, Documented path expr
    · exact Or.inl inside
    · exact Or.inr (bare_or_silent exactly inside)
  · intro kind
    constructor
    · intro expr documented library payload document mask nonempty decoded
      have walked := walkPath_documented documented (.string mask) document
      refine ⟨?_, ?_⟩
      · rw [applyJSONPath_eq nonempty decoded, walked]
      · rintro name rfl place fields value reached member
        have descended : walkRecursive (.string mask) name document =
            masked (.string mask) (Anywhere name document) document :=
          walkRecursive_eq (.string mask) name document
        exact value_of_walkRecursive mask name document (descended ▸ reached) member
    · intro outside library payload document mask nonempty decoded
      rw [applyJSONPath_eq nonempty decoded]
      rcases kind with inside | bare | silent
      · exact absurd inside outside
      · rw [parsePath_bare bare]
        rcases walkPath_bare (.string mask) path document with missed | named
        · rw [missed]
          exact Or.inl rfl
        · rw [named]
          split
          · exact Or.inr ⟨_, rfl, rfl⟩
          · exact Or.inl rfl
      · rw [parsePath_silent silent fun root => outside ⟨.root, root ▸ Documented.root⟩]
        exact Or.inl rfl

section Instances

/-- `{"a": [1, 2], "b": 1}`. -/
def twoItems : JsonValue :=
  .object [("a", .array [.number "1", .number "2"]), ("b", .number "1")]

theorem parsePath_element {body : List Char} (inside : ']' ∉ body) :
    parsePath (String.ofList (['$', '.', 'a', '['] ++ body ++ [']'])) = [.key "a", bracketSegment body] := by
  have name := @nextSegment_name ['a'] ('[' :: (body ++ [']'])) ⟨by decide, by decide, by decide⟩
    fun _ first => Or.inr (Option.some.inj first).symm
  have element := @nextSegment_bracket body [] inside
  rw [parsePath_ofList]
  show parseSegments (['a'] ++ '[' :: (body ++ [']'])) = _
  rw [parseSegments_of_some name, show trimDot ('[' :: (body ++ [']'])) = '[' :: (body ++ [']']) from rfl,
    parseSegments_of_some element, show parseSegments (trimDot []) = [] from parseSegments_of_none rfl]

theorem not_documented_element : ¬ ∃ expr, Documented "$.a[x]" expr := by
  have bracket (rest : List Char) (steps : List Step) (same : rest = ['[', 'x', ']']) : ¬ SpellsAll rest steps := by
    rintro (_ | ⟨first, others⟩)
    · cases same
    · cases first with
      | key => cases same
      | fromEnd => cases same
      | all => cases same
      | @item digits isIndex =>
        obtain ⟨nonempty, decimal, -⟩ := isIndex
        cases digits with
        | nil => exact nonempty rfl
        | cons digit digits =>
          obtain rfl := (List.cons.inj (List.cons.inj same).2).1
          exact absurd (decimal _ List.mem_cons_self) (by decide)
  rintro ⟨expr, documented⟩
  generalize same : "$.a[x]" = path at documented
  have chars : ['$', '.', 'a', '[', 'x', ']'] = path.toList := congrArg String.toList same
  cases documented with
  | root => exact absurd same (by decide)
  | @steps text steps spelled =>
    rw [String.toList_ofList] at chars
    obtain rfl := (List.cons.inj chars).2
    generalize shape : ['.', 'a', '[', 'x', ']'] = text at spelled
    cases spelled with
    | nil => cases shape
    | @cons _ rest step others first further =>
      have follows := follows_of_spellsAll further
      cases first with
      | item => cases shape
      | fromEnd => cases shape
      | all => cases shape
      | @key name isName =>
        have split := @takeWhile_append_stop (fun char => char != '.' && char != '[') name rest
          (fun char member => by
            rw [Bool.and_eq_true, bne_iff_ne, bne_iff_ne]
            exact ⟨fun same => isName.2.1 (same ▸ member), fun same => isName.2.2 (same ▸ member)⟩)
          (fun char first => by
            rcases follows char first with rfl | rfl <;> rfl)
        have whole : name ++ rest = ['a', '[', 'x', ']'] := (List.cons.inj shape).2.symm
        rw [whole] at split
        exact bracket rest others split.2.symm further
  | anywhere =>
    rw [String.toList_ofList] at chars
    cases chars

/-- An index that is no number is the last one, and an empty index or one that overflows is the first. The
first masks an element of `a`, which is no root field of that name. -/
theorem misread_index_masks_element :
    parsePath "$.a[x]" = [.key "a", .index (-1)] ∧ parsePath "$.a[]" = [.key "a", .index 0] ∧
      parsePath "$.a[18446744073709551616]" = [.key "a", .index 0] ∧
      walkPath (.string "-") (parsePath "$.a[x]") twoItems =
        (.object [("a", .array [.number "1", .string "-"]), ("b", .number "1")], true) ∧
      (¬ ∃ expr, Documented "$.a[x]" expr) ∧ ¬ MasksExactly "$.a[x]" := by
  have read : parsePath "$.a[x]" = [.key "a", .index (-1)] := @parsePath_element ['x'] (by decide)
  have walked : walkPath (.string "-") (parsePath "$.a[x]") twoItems =
      (.object [("a", .array [.number "1", .string "-"]), ("b", .number "1")], true) := by
    rw [read]
    rfl
  refine ⟨read, @parsePath_element [] (by decide), ?_, walked, not_documented_element, fun exactly => ?_⟩
  · have wrapped : bracketSegment "18446744073709551616".toList = .index 0 := by decide +kernel
    rw [← wrapped]
    exact @parsePath_element "18446744073709551616".toList (by decide)
  · have named := maskRootField_of_masksExactly exactly not_documented_element twoItems (by rw [read]; rfl)
    exact absurd named (by decide)

end Instances

end Masking

end MqConnector
