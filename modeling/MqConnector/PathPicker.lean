/-
This file models `internal/sample`, which lists the dot paths of a message, and compares it
with the filter stage, which removes them.

A place is the way to a field of a JSON object or to an XML element, and a path names places.
The extractor lets arrays and the dots of a key disappear from a path; the filter goes along
the keys of a path through objects only, and in XML takes the whole path for the name of an
element at any depth.
-/

import MqConnector.PathEdits
import MqConnector.ScriptMemory

namespace MqConnector

open NestedMaps SharedMaps

/-! ### The extractor -/

/-- The path of a field or element in its parent. -/
def joinPath (parent name : String) : String :=
  if parent = "" then name else parent ++ "." ++ name

section Walkers

variable {Number : Type}

mutual

/-- `walkJSON`: the paths that it has seen. -/
def walkJSON (parent : String) : Value Number → List String
  | .object fields => walkJSONFields parent fields
  | .array items => walkJSONItems parent items
  | _ => []

/-- The loop of `walkJSON` over an object. -/
def walkJSONFields (parent : String) : DataMap Number → List String
  | [] => []
  | (name, value) :: fields =>
    (joinPath parent name :: walkJSON (joinPath parent name) value) ++ walkJSONFields parent fields

/-- The loop of `walkJSON` over an array: every element walks at the parent. -/
def walkJSONItems (parent : String) : List (Value Number) → List String
  | [] => []
  | item :: items => walkJSON parent item ++ walkJSONItems parent items

end

end Walkers

namespace XmlToken

/-- The tag of an element. -/
def tag : XmlToken → String
  | .element _ tag _ _ => tag
  | .other _ => ""

def isElement : XmlToken → Bool
  | .element _ _ _ _ => true
  | .other _ => false

mutual

/-- `walkXML`: the paths that it has seen. -/
def walkXML (parent : String) : XmlToken → List String
  | .element _ _ _ children => walkXMLChildren parent children
  | .other _ => []

/-- The loop of `walkXML` over the child elements. -/
def walkXMLChildren (parent : String) : List XmlToken → List String
  | [] => []
  | child :: rest =>
    if child.isElement then
      (joinPath parent child.tag :: walkXML (joinPath parent child.tag) child) ++ walkXMLChildren parent rest
    else walkXMLChildren parent rest

end

/-- `doc.Root()`: the first element. -/
def rootOf (doc : List XmlToken) : Option XmlToken :=
  doc.find? isElement

end XmlToken

/-- `sortedKeys`, of the keys in the order in which they were added. -/
def sortedKeys (seen : List String) : List String :=
  seen.dedup.insertionSort fun first second => first ≤ second

/-- `sample.Result`. -/
structure PathSample where
  format : Format
  rootTag : String
  paths : List String
  deriving DecidableEq

/-- What the extractor uses beside the library of the stages: `json.Unmarshal` into `any`. -/
structure PickerLibrary (Number : Type) extends StructuredLibrary Number where
  unmarshalAny : Bytes → Except String (Value Number)

namespace PickerLibrary

variable {Number : Type} (library : PickerLibrary Number)

/-- The paths of a JSON body. -/
def extractJSON (body : Bytes) : Except String (List String) :=
  match library.unmarshalAny body with
  | .error err => .error err
  | .ok data => .ok (sortedKeys (walkJSON "" data))

/-- The root and the paths of an XML body. -/
def extractXML (body : Bytes) : Except String (String × List String) :=
  match library.readXml body with
  | .error err => .error err
  | .ok doc =>
    match XmlToken.rootOf doc with
    | none => .error "no root element"
    | some root => .ok (root.tag, sortedKeys (root.walkXML ""))

/-- The switch of `Extract`, for a format. -/
def extractAs (body : Bytes) : Format → Except String PathSample
  | .json =>
    match library.extractJSON body with
    | .error err => .error ("extract json: " ++ err)
    | .ok paths => .ok { format := .json, rootTag := "", paths := paths }
  | .xml =>
    match library.extractXML body with
    | .error err => .error ("extract xml: " ++ err)
    | .ok (rootTag, paths) => .ok { format := .xml, rootTag := rootTag, paths := paths }
  | .protobuf => .ok { format := .protobuf, rootTag := "", paths := [] }
  | .bytes => .ok { format := .bytes, rootTag := "", paths := [] }

/-- Larger bodies are refused. -/
def maxSize : Nat := 4 * 1024 * 1024

/-- `Extract`. -/
def extract (body : Bytes) : Except String PathSample :=
  if maxSize < body.length then .error "sample: payload exceeds MaxSize" else library.extractAs body (detect body)

end PickerLibrary

theorem mem_sortedKeys {path : String} {seen : List String} : path ∈ sortedKeys seen ↔ path ∈ seen := by
  rw [sortedKeys, List.mem_insertionSort, List.mem_dedup]

/-! ### Places -/

/-- A step of a path that is picked. -/
inductive Step
  | field (name : String)
  | item
  deriving DecidableEq

/-- The name of a step, which an element of an array does not have. -/
def Step.name : Step → Option String
  | .field name => some name
  | .item => none

/-- The path that names are joined to. -/
def pathOf (names : List String) : String :=
  names.foldl joinPath ""

section Places

variable {Number : Type}

mutual

/-- The places of a document. -/
def Value.places : Value Number → List (List Step)
  | .object fields => fieldPlaces fields
  | .array items => itemPlaces items
  | _ => []

def fieldPlaces : DataMap Number → List (List Step)
  | [] => []
  | (name, value) :: fields => ([.field name] :: value.places.map (.field name :: ·)) ++ fieldPlaces fields

def itemPlaces : List (Value Number) → List (List Step)
  | [] => []
  | item :: items => item.places.map (.item :: ·) ++ itemPlaces items

end

end Places

namespace XmlToken

mutual

/-- The places of the elements below an element: the prefixes and tags on the way. -/
def places : XmlToken → List (List (String × String))
  | .element _ _ _ children => childPlaces children
  | .other _ => []

/-- The places under the children of an element. -/
def childPlaces : List XmlToken → List (List (String × String))
  | [] => []
  | child :: rest =>
    if child.isElement then
      ([(child.space, child.tag)] :: child.places.map ((child.space, child.tag) :: ·)) ++ childPlaces rest
    else childPlaces rest

end

end XmlToken

/-! ### The extractor lists the paths of the places -/

section Walked

variable {Number : Type}

mutual

theorem walkJSON_eq (parent : String) : ∀ value : Value Number,
    walkJSON parent value = value.places.map fun steps => (steps.filterMap Step.name).foldl joinPath parent
  | .object fields => by rw [walkJSON, Value.places, walkJSONFields_eq parent fields]
  | .array items => by rw [walkJSON, Value.places, walkJSONItems_eq parent items]
  | .null => rfl
  | .bool _ => rfl
  | .number _ => rfl
  | .string _ => rfl

theorem walkJSONFields_eq (parent : String) : ∀ fields : DataMap Number,
    walkJSONFields parent fields =
      (fieldPlaces fields).map fun steps => (steps.filterMap Step.name).foldl joinPath parent
  | [] => rfl
  | (name, value) :: fields => by
    rw [walkJSONFields, fieldPlaces, walkJSON_eq (joinPath parent name) value, walkJSONFields_eq parent fields,
      List.map_append, List.map_cons, List.map_map]
    rfl

theorem walkJSONItems_eq (parent : String) : ∀ items : List (Value Number),
    walkJSONItems parent items =
      (itemPlaces items).map fun steps => (steps.filterMap Step.name).foldl joinPath parent
  | [] => rfl
  | item :: items => by
    rw [walkJSONItems, itemPlaces, walkJSON_eq parent item, walkJSONItems_eq parent items, List.map_append,
      List.map_map]
    rfl

end

end Walked

namespace XmlToken

mutual

theorem walkXML_eq (parent : String) : ∀ token : XmlToken,
    token.walkXML parent = token.places.map fun names => (names.map Prod.snd).foldl joinPath parent
  | .element _ _ _ children => by rw [walkXML, places, walkXMLChildren_eq parent children]
  | .other _ => rfl

theorem walkXMLChildren_eq (parent : String) : ∀ children : List XmlToken,
    walkXMLChildren parent children =
      (childPlaces children).map fun names => (names.map Prod.snd).foldl joinPath parent
  | [] => rfl
  | child :: rest => by
    rw [walkXMLChildren, childPlaces, walkXML_eq (joinPath parent child.tag) child, walkXMLChildren_eq parent rest]
    split
    · rw [List.map_append, List.map_cons, List.map_map]
      rfl
    · rfl

end

end XmlToken

/-! ### What the filter removes -/

section Removed

variable {Number : Type}

theorem mem_fieldPlaces {steps : List Step} {fields : DataMap Number} :
    steps ∈ fieldPlaces fields ↔
      ∃ name value rest, (name, value) ∈ fields ∧ steps = .field name :: rest ∧ (rest = [] ∨ rest ∈ value.places) := by
  induction fields with
  | nil => simp [fieldPlaces]
  | cons entry fields hypothesis =>
    obtain ⟨other, held⟩ := entry
    rw [fieldPlaces, List.mem_append, hypothesis, List.mem_cons, List.mem_map]
    constructor
    · rintro ((rfl | ⟨rest, among, rfl⟩) | ⟨name, value, rest, member, rfl, further⟩)
      · exact ⟨other, held, [], List.mem_cons_self, rfl, .inl rfl⟩
      · exact ⟨other, held, rest, List.mem_cons_self, rfl, .inr among⟩
      · exact ⟨name, value, rest, List.mem_cons_of_mem _ member, rfl, further⟩
    · rintro ⟨name, value, rest, member, rfl, further⟩
      rcases List.mem_cons.mp member with same | member
      · injection same with sameName sameValue
        rw [sameName]
        rcases further with rfl | among
        · exact .inl (.inl rfl)
        · exact .inl (.inr ⟨rest, sameValue ▸ among, rfl⟩)
      · exact .inr ⟨name, value, rest, member, rfl, further⟩

theorem mem_fieldPlaces_of_nodup {steps : List Step} {fields : DataMap Number}
    (distinct : (fields.map Prod.fst).Nodup) :
    steps ∈ fieldPlaces fields ↔ ∃ name value rest, fields.lookup name = some value ∧ steps = .field name :: rest ∧
      (rest = [] ∨ rest ∈ value.places) := by
  rw [mem_fieldPlaces]
  constructor
  · rintro ⟨name, value, rest, member, further⟩
    exact ⟨name, value, rest, lookup_eq_some_of_mem distinct member, further⟩
  · rintro ⟨name, value, rest, found, further⟩
    exact ⟨name, value, rest, mem_of_lookup found, further⟩

theorem exists_of_mem_itemPlaces {steps : List Step} {items : List (Value Number)}
    (member : steps ∈ itemPlaces items) :
    ∃ rest, steps = .item :: rest := by
  induction items with
  | nil => cases member
  | cons item items hypothesis =>
    rcases List.mem_append.mp member with here | further
    · obtain ⟨rest, -, rfl⟩ := List.mem_map.mp here
      exact ⟨rest, rfl⟩
    · exact hypothesis further

theorem distinct_of_mem {fields : DataMap Number} {name : String} {value : Value Number}
    (distinct : distinctFields fields) (member : (name, value) ∈ fields) : value.Distinct := by
  induction fields with
  | nil => cases member
  | cons entry fields hypothesis =>
    obtain ⟨here, others⟩ := distinct
    rcases List.mem_cons.mp member with rfl | member
    · exact here
    · exact hypothesis others member

theorem mem_fieldPlaces_deleteKeys {keys : List String} (nonempty : keys ≠ []) {data : DataMap Number}
    (distinct : (Value.object data).Distinct) {steps : List Step} :
    steps ∈ fieldPlaces (deleteKeys keys data) ↔ steps ∈ fieldPlaces data ∧ ¬ keys.map .field <+: steps := by
  induction keys generalizing data steps with
  | nil => exact absurd rfl nonempty
  | cons key keys hypothesis =>
    obtain ⟨keyed, below⟩ := distinct
    cases keys with
    | nil =>
      rw [deleteKeys, mem_fieldPlaces_of_nodup keyed, mem_fieldPlaces_of_nodup (nodup_erase key data keyed)]
      constructor
      · rintro ⟨name, value, rest, found, rfl, further⟩
        have differ : name ≠ key := by
          rintro rfl
          rw [lookup_erase_self] at found
          cases found
        rw [lookup_erase_of_ne data differ] at found
        refine ⟨⟨name, value, rest, found, rfl, further⟩, fun struck => ?_⟩
        injection (List.cons_prefix_cons.mp struck).1 with same
        exact differ same.symm
      · rintro ⟨⟨name, value, rest, found, rfl, further⟩, kept⟩
        have differ : name ≠ key := by
          rintro rfl
          exact kept (List.cons_prefix_cons.mpr ⟨rfl, List.nil_prefix⟩)
        exact ⟨name, value, rest, (lookup_erase_of_ne data differ).trans found, rfl, further⟩
    | cons next keys =>
      have unchanged (aside : ∀ fields, data.lookup key ≠ some (.object fields)) (member : steps ∈ fieldPlaces data) :
          ¬ (key :: next :: keys).map .field <+: steps := by
        obtain ⟨name, value, rest, found, rfl, further⟩ := (mem_fieldPlaces_of_nodup keyed).mp member
        intro struck
        obtain ⟨same, struck⟩ := List.cons_prefix_cons.mp struck
        injection same with same
        rcases further with rfl | among
        · exact absurd struck.length_le (by simp)
        · cases value with
          | object fields => exact aside fields (same ▸ found)
          | array items =>
            obtain ⟨others, rfl⟩ := exists_of_mem_itemPlaces among
            cases (List.cons_prefix_cons.mp struck).1
          | null | bool | number | string => cases among
      rw [deleteKeys]
      split
      case h_1 fields found =>
        have inner := distinct_of_mem below (mem_of_lookup found)
        rw [mem_fieldPlaces_of_nodup keyed, mem_fieldPlaces_of_nodup (nodup_put key _ data keyed)]
        constructor
        · rintro ⟨name, value, rest, looked, rfl, further⟩
          by_cases same : name = key
          · subst same
            rw [lookup_put_self] at looked
            obtain rfl := Option.some.inj looked
            rcases further with rfl | among
            · exact ⟨⟨name, .object fields, [], found, rfl, .inl rfl⟩, fun struck => absurd struck.length_le (by simp)⟩
            · obtain ⟨before, kept⟩ := (hypothesis (List.cons_ne_nil _ _) inner).mp among
              exact ⟨⟨name, .object fields, rest, found, rfl, .inr before⟩,
                fun struck => kept (List.cons_prefix_cons.mp struck).2⟩
          · rw [lookup_put_of_ne _ data same] at looked
            refine ⟨⟨name, value, rest, looked, rfl, further⟩, fun struck => ?_⟩
            injection (List.cons_prefix_cons.mp struck).1 with also
            exact same also.symm
        · rintro ⟨⟨name, value, rest, looked, rfl, further⟩, kept⟩
          by_cases same : name = key
          · subst same
            obtain rfl := Option.some.inj (found.symm.trans looked)
            refine ⟨name, _, rest, lookup_put_self name _ data, rfl, further.imp_right fun among => ?_⟩
            exact (hypothesis (List.cons_ne_nil _ _) inner).mpr
              ⟨among, fun struck => kept (List.cons_prefix_cons.mpr ⟨rfl, struck⟩)⟩
          · exact ⟨name, value, rest, (lookup_put_of_ne _ data same).trans looked, rfl, further⟩
      case h_2 aside =>
        exact ⟨fun member => ⟨member, unchanged aside member⟩, And.left⟩

end Removed

namespace XmlToken

theorem named_iff {child : XmlToken} (isElement : child.isElement) {namespaceName tag : String} :
    child.named namespaceName tag ↔ (child.space, child.tag) = (namespaceName, tag) := by
  cases child with
  | element space name attributes children => simp [named, XmlToken.space, XmlToken.tag]
  | other text => cases isElement

theorem not_named {child : XmlToken} (isOther : child.isElement = false) {namespaceName tag : String} :
    child.named namespaceName tag = false := by
  cases child with
  | element space name attributes children => cases isOther
  | other text => rfl

theorem isElement_removeXMLElements (namespaceName tag : String) (token : XmlToken) :
    (token.removeXMLElements namespaceName tag).isElement = token.isElement := by
  cases token <;> rfl

theorem space_removeXMLElements (namespaceName tag : String) (token : XmlToken) :
    (token.removeXMLElements namespaceName tag).space = token.space := by
  cases token <;> rfl

theorem tag_removeXMLElements (namespaceName tag : String) (token : XmlToken) :
    (token.removeXMLElements namespaceName tag).tag = token.tag := by
  cases token <;> rfl

theorem mem_childPlaces_cons {names : List (String × String)} {child : XmlToken} {rest : List XmlToken} :
    names ∈ childPlaces (child :: rest) ↔
      (child.isElement ∧ ∃ below, names = (child.space, child.tag) :: below ∧ (below = [] ∨ below ∈ child.places)) ∨
        names ∈ childPlaces rest := by
  rw [childPlaces]
  split
  case isTrue isElement =>
    rw [List.mem_append, List.mem_cons, List.mem_map]
    refine or_congr_left ⟨?_, ?_⟩
    · rintro (rfl | ⟨below, among, rfl⟩)
      · exact ⟨isElement, [], rfl, .inl rfl⟩
      · exact ⟨isElement, below, rfl, .inr among⟩
    · rintro ⟨-, below, rfl, rfl | among⟩
      · exact .inl rfl
      · exact .inr ⟨below, among, rfl⟩
  case isFalse isOther =>
    exact (or_iff_right fun element => isOther element.1).symm

mutual

theorem mem_places_removeXMLElements (namespaceName tag : String) {names : List (String × String)} :
    ∀ token : XmlToken, names ∈ (token.removeXMLElements namespaceName tag).places ↔
      names ∈ token.places ∧ (namespaceName, tag) ∉ names
  | .element _ _ _ children => by
    rw [removeXMLElements, places, places, mem_childPlaces_removeChildren namespaceName tag children]
  | .other _ => by simp [removeXMLElements, places]

theorem mem_childPlaces_removeChildren (namespaceName tag : String) {names : List (String × String)} :
    ∀ children : List XmlToken, names ∈ childPlaces (removeChildren namespaceName tag children) ↔
      names ∈ childPlaces children ∧ (namespaceName, tag) ∉ names
  | [] => by simp [removeChildren, childPlaces]
  | child :: rest => by
    have below {names : List (String × String)} :=
      @mem_places_removeXMLElements namespaceName tag names child
    have further := @mem_childPlaces_removeChildren namespaceName tag names rest
    rw [removeChildren_cons]
    split
    case isTrue gone =>
      have isElement : child.isElement := by
        by_contra isOther
        rw [not_named (eq_false_of_ne_true isOther)] at gone
        cases gone
      rw [further, mem_childPlaces_cons, (named_iff isElement).mp gone, or_and_right]
      refine (or_iff_right ?_).symm
      rintro ⟨⟨-, below, rfl, -⟩, kept⟩
      exact kept List.mem_cons_self
    case isFalse stays =>
      rw [mem_childPlaces_cons, mem_childPlaces_cons, further, isElement_removeXMLElements,
        space_removeXMLElements, tag_removeXMLElements, or_and_right]
      refine or_congr_left ⟨?_, ?_⟩
      · rintro ⟨isElement, names, rfl, among⟩
        have differ : (namespaceName, tag) ≠ (child.space, child.tag) :=
          fun same => stays ((named_iff isElement).mpr same.symm)
        rcases among with rfl | among
        · exact ⟨⟨isElement, [], rfl, .inl rfl⟩, fun member => differ (List.mem_singleton.mp member)⟩
        · obtain ⟨before, kept⟩ := below.mp among
          exact ⟨⟨isElement, names, rfl, .inr before⟩, fun member => (List.mem_cons.mp member).elim differ kept⟩
      · rintro ⟨⟨isElement, names, rfl, among⟩, kept⟩
        exact ⟨isElement, names, rfl, among.imp_right fun among =>
          below.mpr ⟨among, fun member => kept (List.mem_cons_of_mem _ member)⟩⟩

end

end XmlToken

/-! ### Documents without what is between the elements -/

namespace XmlToken

mutual

/-- An element with nothing but the elements in it. -/
def bare : XmlToken → XmlToken
  | .element space tag attributes children => .element space tag attributes (bareAll children)
  | .other text => .other text

def bareAll : List XmlToken → List XmlToken
  | [] => []
  | child :: rest => if child.isElement then child.bare :: bareAll rest else bareAll rest

end

theorem isElement_bare (token : XmlToken) : token.bare.isElement = token.isElement := by
  cases token <;> rfl

theorem space_bare (token : XmlToken) : token.bare.space = token.space := by
  cases token <;> rfl

theorem tag_bare (token : XmlToken) : token.bare.tag = token.tag := by
  cases token <;> rfl

mutual

theorem places_bare : ∀ token : XmlToken, token.bare.places = token.places
  | .element _ _ _ children => by rw [bare, places, places, childPlaces_bareAll children]
  | .other _ => rfl

theorem childPlaces_bareAll :
    ∀ children : List XmlToken, childPlaces (bareAll children) = childPlaces children
  | [] => rfl
  | child :: rest => by
    rw [bareAll, childPlaces]
    split
    case isTrue isElement =>
      rw [childPlaces, isElement_bare, if_pos isElement, space_bare, tag_bare, places_bare child,
        childPlaces_bareAll rest]
    case isFalse => exact childPlaces_bareAll rest

end

theorem rootOf_bareAll (doc : List XmlToken) : rootOf (bareAll doc) = (rootOf doc).map bare := by
  induction doc with
  | nil => rfl
  | cons token doc hypothesis =>
    rw [bareAll, rootOf, rootOf, List.find?_cons]
    by_cases isElement : token.isElement
    · rw [if_pos isElement, List.find?_cons, isElement_bare, isElement]
      rfl
    · rw [if_neg isElement, eq_false_of_ne_true isElement]
      exact hypothesis

theorem rootOf_mapRoot {change : XmlToken → XmlToken}
    (kept : ∀ token, (change token).isElement = token.isElement)
    {doc : List XmlToken} {root : XmlToken} (rooted : rootOf doc = some root) :
    ∃ edited, mapRoot change doc = some edited ∧ rootOf edited = some (change root) := by
  induction doc with
  | nil => cases rooted
  | cons token doc hypothesis =>
    cases token with
    | element space tag attributes children =>
      obtain rfl := Option.some.inj rooted
      refine ⟨_, rfl, ?_⟩
      rw [rootOf, List.find?_cons, kept]
      rfl
    | other text =>
      obtain ⟨edited, mapped, further⟩ := hypothesis rooted
      exact ⟨.other text :: edited, by rw [mapRoot, mapped, Option.map_some], further⟩

end XmlToken

/-! ### The filter strips the paths that name what it strikes -/

/-- The path itself or one below it. -/
def Beneath (path other : String) : Prop :=
  other = path ∨ ∃ rest, other = path ++ "." ++ rest

/-- The paths afterwards are those before that are not the path or below it. -/
def Strips (path : String) (before after : List String) : Prop :=
  ∀ other, other ∈ after ↔ other ∈ before ∧ ¬ Beneath path other

/-- What is struck among the places is what the path names: every place whose path is this or
below it is struck, and every other path is that of a place that is not. -/
structure Separates {Place : Type} (places : List Place) (nameOf : Place → String) (struck : Place → Prop)
    (path : String) : Prop where
  named : ∀ place ∈ places, Beneath path (nameOf place) → struck place
  kept : ∀ place ∈ places, ¬ Beneath path (nameOf place) →
    ∃ other ∈ places, nameOf other = nameOf place ∧ ¬ struck other

theorem strips_iff_separates {Place : Type} {places remaining : List Place} {nameOf : Place → String}
    {struck : Place → Prop} {path : String}
    (removed : ∀ place, place ∈ remaining ↔ place ∈ places ∧ ¬ struck place) :
    Strips path (sortedKeys (places.map nameOf)) (sortedKeys (remaining.map nameOf)) ↔
      Separates places nameOf struck path := by
  simp only [Strips, mem_sortedKeys, List.mem_map]
  constructor
  · intro strips
    refine ⟨fun place member beneath => ?_, fun place member aside => ?_⟩
    · by_contra stays
      exact ((strips _).mp ⟨place, (removed place).mpr ⟨member, stays⟩, rfl⟩).2 beneath
    · obtain ⟨other, among, same⟩ := (strips _).mpr ⟨⟨place, member, rfl⟩, aside⟩
      obtain ⟨before, stays⟩ := (removed other).mp among
      exact ⟨other, before, same, stays⟩
  · rintro ⟨named, kept⟩ other
    constructor
    · rintro ⟨place, among, rfl⟩
      obtain ⟨before, stays⟩ := (removed place).mp among
      exact ⟨⟨place, before, rfl⟩, fun beneath => stays (named place before beneath)⟩
    · rintro ⟨⟨place, member, rfl⟩, aside⟩
      obtain ⟨survivor, before, same, stays⟩ := kept place member aside
      exact ⟨survivor, (removed survivor).mpr ⟨before, stays⟩, same⟩

section Agreement

variable {Number : Type}

/-- In an object: a place is struck that goes through the fields that the keys of the path name, from
the document on and through objects only. -/
def FieldsTold (path : String) (data : DataMap Number) : Prop :=
  Separates (fieldPlaces data) (fun steps => pathOf (steps.filterMap Step.name))
    (fun steps => (keysOf path).map .field <+: steps) path

/-- In an element: a place is struck that goes through an element with the prefix of the root and
the whole path for its name. -/
def ElementsTold (path : String) (root : XmlToken) : Prop :=
  Separates root.places (fun names => pathOf (names.map Prod.snd)) (fun names => (root.space, path) ∈ names) path

theorem joinPath_of_ne {parent : String} (nonempty : parent ≠ "") (name : String) :
    joinPath parent name = parent ++ "." ++ name :=
  if_neg nonempty

theorem append_dot_ne (parent rest : String) : parent ++ "." ++ rest ≠ "" := by
  intro empty
  have := congrArg String.toList empty
  simp at this

theorem foldl_joinPath_beneath {parent : String} (nonempty : parent ≠ "") (names : List String) :
    Beneath parent (names.foldl joinPath parent) := by
  induction names using List.reverseRecOn with
  | nil => exact .inl rfl
  | append_singleton names name hypothesis =>
    rw [List.foldl_append, List.foldl_cons, List.foldl_nil]
    rcases hypothesis with same | ⟨rest, same⟩
    · rw [same, joinPath_of_ne nonempty]
      exact .inr ⟨name, rfl⟩
    · rw [same, joinPath_of_ne (append_dot_ne parent rest)]
      exact .inr ⟨rest ++ "." ++ name, by simp only [String.append_assoc]⟩

theorem toList_foldl_joinPath {parent : String} (nonempty : parent ≠ "") (names : List String) :
    (names.foldl joinPath parent).toList = ['.'].intercalate (parent.toList :: names.map String.toList) := by
  induction names generalizing parent with
  | nil => simp
  | cons name names hypothesis =>
    rw [List.foldl_cons, joinPath_of_ne nonempty, hypothesis (append_dot_ne parent name)]
    cases names <;> simp [List.intercalate, List.intersperse]

theorem pathOf_keysOf {path : String} (named : (keysOf path).head? ≠ some "") : pathOf (keysOf path) = path := by
  obtain ⟨first, rest, keys⟩ := List.exists_cons_of_ne_nil (keysOf_ne_nil path)
  have joined : ['.'].intercalate ((keysOf path).map String.toList) = path.toList := by
    rw [keysOf, List.map_map]
    have same : String.toList ∘ String.ofList = id := funext fun _ => String.toList_ofList
    rw [same, List.map_id, List.intercalate_splitOn]
  rw [keys] at named joined ⊢
  have nonempty : first ≠ "" := fun empty => named (congrArg some empty)
  apply String.ext
  rw [← joined, pathOf, List.foldl_cons, joinPath, if_pos rfl, toList_foldl_joinPath nonempty, List.map_cons]

theorem fieldsTold_iff {path : String} (named : (keysOf path).head? ≠ some "") (data : DataMap Number) :
    FieldsTold path data ↔ ∀ steps ∈ fieldPlaces data, Beneath path (pathOf (steps.filterMap Step.name)) →
      (keysOf path).map .field <+: steps := by
  refine ⟨fun told => told.named, fun reached => ⟨reached, fun steps member aside => ?_⟩⟩
  refine ⟨steps, member, rfl, fun struck => aside ?_⟩
  obtain ⟨rest, rfl⟩ := struck
  have names : ((keysOf path).map Step.field ++ rest).filterMap Step.name =
      keysOf path ++ rest.filterMap Step.name := by
    rw [List.filterMap_append, List.filterMap_map]
    exact congrArg (· ++ _) (List.filterMap_some)
  have nonempty : path ≠ "" := by
    rintro rfl
    exact named rfl
  rw [names, pathOf, List.foldl_append, ← pathOf, pathOf_keysOf named]
  exact foldl_joinPath_beneath nonempty _

namespace PickerLibrary

variable (library : PickerLibrary Number)

/-- What the stages read from a body and write of it without a path is read back; the maps
of a decoded value have distinct keys, and `etree` keeps the elements of a document. -/
structure RoundTrips (body : Bytes) (path : String) : Prop where
  mapped : ∀ data, library.unmarshalAny body = .ok (.object data) → library.unmarshalJSON body = .ok (some data)
  distinct : ∀ data, library.unmarshalAny body = .ok (.object data) → (Value.object data).Distinct
  rewritten : ∀ data, library.unmarshalAny body = .ok (.object data) →
    ∃ out, library.marshalJSON (some (deleteNestedValue path data)) = .ok out ∧
      library.unmarshalAny out = .ok (.object (deleteNestedValue path data))
  rewrittenXml : ∀ doc edited, library.readXml body = .ok doc →
    XmlToken.mapRoot (fun root => root.removeXMLElements root.space path) doc = some edited →
    ∃ out again, library.writeXml edited = .ok out ∧ library.readXml out = .ok again ∧
      XmlToken.bareAll again = XmlToken.bareAll edited

/-- The filter with the path alone strips the path and those below it from what is extracted. -/
def Agrees (body : Bytes) (sample : PathSample) (path : String) : Prop :=
  ∃ out after, library.filterExecute [path] body sample.format = .ok out ∧
    library.extractAs out.body sample.format = .ok after ∧ Strips path sample.paths after.paths

variable {library} {body : Bytes} {path : String} (roundTrips : library.RoundTrips body path)

include roundTrips

/-- When the stages agree with the picker on a path of a JSON sample. -/
theorem agrees_json {data : DataMap Number} (decoded : library.unmarshalAny body = .ok (.object data))
    {sample : PathSample} (extracted : library.extractAs body .json = .ok sample) :
    library.Agrees body sample path ↔ FieldsTold path data := by
  obtain ⟨out, marshalled, again⟩ := roundTrips.rewritten data decoded
  have walked (body : Bytes) (data : DataMap Number) (decoded : library.unmarshalAny body = .ok (.object data)) :
      library.extractAs body .json = .ok
        { format := .json, rootTag := "",
          paths := sortedKeys ((fieldPlaces data).map fun steps => pathOf (steps.filterMap Step.name)) } := by
    rw [extractAs, extractJSON, decoded]
    show Except.ok _ = _
    rw [walkJSON_eq, Value.places]
    rfl
  obtain rfl := Except.ok.inj ((walked body data decoded).symm.trans extracted)
  have filtered : library.filterExecute [path] body .json =
      .ok { body := out, format := some .json, result := none } := by
    simp only [StructuredLibrary.filterExecute, List.cons_ne_nil, if_false, roundTrips.mapped data decoded,
      Option.map_some, removeJSONPaths, List.foldl_cons, List.foldl_nil, marshalled]
  have removed (steps : List Step) := @mem_fieldPlaces_deleteKeys Number (keysOf path) (keysOf_ne_nil path) data
    (roundTrips.distinct data decoded) steps
  rw [FieldsTold, ← strips_iff_separates removed]
  constructor
  · rintro ⟨output, after, executed, taken, strips⟩
    obtain rfl := Except.ok.inj (filtered.symm.trans executed)
    obtain rfl := Except.ok.inj ((walked out _ again).symm.trans taken)
    exact strips
  · intro strips
    exact ⟨_, _, filtered, walked out _ again, strips⟩

/-- The same for XML samples. -/
theorem agrees_xml {doc : List XmlToken} {root : XmlToken} (read : library.readXml body = .ok doc)
    (rooted : XmlToken.rootOf doc = some root) {sample : PathSample}
    (extracted : library.extractAs body .xml = .ok sample) :
    library.Agrees body sample path ↔ ElementsTold path root := by
  have kept (token : XmlToken) : (token.removeXMLElements token.space path).isElement = token.isElement :=
    XmlToken.isElement_removeXMLElements token.space path token
  obtain ⟨edited, mapped, editedRoot⟩ := XmlToken.rootOf_mapRoot kept rooted
  obtain ⟨out, again, written, reread, bared⟩ := roundTrips.rewrittenXml doc edited read mapped
  have walked (body : Bytes) (doc : List XmlToken) (root : XmlToken) (read : library.readXml body = .ok doc)
      (rooted : XmlToken.rootOf doc = some root) : library.extractAs body .xml = .ok
        { format := .xml, rootTag := root.tag,
          paths := sortedKeys (root.places.map fun names => pathOf (names.map Prod.snd)) } := by
    have walked : library.extractXML body = .ok (root.tag, sortedKeys (root.walkXML "")) := by
      simp only [extractXML, read, rooted]
    rw [extractAs, walked, XmlToken.walkXML_eq]
    rfl
  obtain rfl := Except.ok.inj ((walked body doc root read rooted).symm.trans extracted)
  have filtered : library.filterExecute [path] body .xml =
      .ok { body := out, format := some .xml, result := none } := by
    simp only [StructuredLibrary.filterExecute, List.cons_ne_nil, if_false, read, List.foldl_cons, List.foldl_nil,
      mapped, written]
  have removed (names : List (String × String)) := @XmlToken.mem_places_removeXMLElements root.space path names root
  rw [ElementsTold, ← strips_iff_separates removed]
  obtain ⟨last, lastRoot, same⟩ : ∃ last, XmlToken.rootOf again = some last ∧
      last.places = (root.removeXMLElements root.space path).places := by
    have both := congrArg XmlToken.rootOf bared
    rw [XmlToken.rootOf_bareAll, XmlToken.rootOf_bareAll, editedRoot, Option.map_some, Option.map_eq_some_iff] at both
    obtain ⟨last, lastRoot, same⟩ := both
    exact ⟨last, lastRoot, by rw [← XmlToken.places_bare last, same, XmlToken.places_bare]⟩
  rw [← same]
  constructor
  · rintro ⟨output, after, executed, taken, strips⟩
    obtain rfl := Except.ok.inj (filtered.symm.trans executed)
    obtain rfl := Except.ok.inj ((walked out again last reread lastRoot).symm.trans taken)
    exact strips
  · intro strips
    exact ⟨_, _, filtered, walked out again last reread lastRoot, strips⟩

omit roundTrips in
theorem extractAs_of_extract {sample : PathSample} (extracted : library.extract body = .ok sample) :
    library.extractAs body sample.format = .ok sample := by
  rw [extract] at extracted
  split at extracted
  · cases extracted
  · have format : sample.format = detect body := by
      cases detected : detect body <;> rw [detected, extractAs] at extracted
      · split at extracted
        · cases extracted
        · exact (Except.ok.inj extracted) ▸ rfl
      · split at extracted
        · cases extracted
        · exact (Except.ok.inj extracted) ▸ rfl
      · exact (Except.ok.inj extracted) ▸ rfl
      · exact (Except.ok.inj extracted) ▸ rfl
    rw [format]
    exact extracted

/-- The filter strips a path of the picker, and nothing else, exactly when the path tells the places that the
filter strikes from the others: for every JSON object and every XML document. -/
theorem path_picker_agrees {sample : PathSample} (extracted : library.extract body = .ok sample) :
    (∀ data, sample.format = .json → library.unmarshalAny body = .ok (.object data) →
      path ∈ sample.paths → (library.Agrees body sample path ↔ FieldsTold path data)) ∧
    ∀ doc root, sample.format = .xml → library.readXml body = .ok doc → XmlToken.rootOf doc = some root →
      path ∈ sample.paths → (library.Agrees body sample path ↔ ElementsTold path root) := by
  have taken := extractAs_of_extract extracted
  refine ⟨fun data format decoded _ => ?_, fun doc root format read rooted _ => ?_⟩
  · rw [format] at taken
    exact agrees_json roundTrips decoded taken
  · rw [format] at taken
    exact agrees_xml roundTrips read rooted taken

end PickerLibrary

end Agreement

/-! ### An array, and an object without one -/

def asciiBytes (text : String) : Bytes :=
  text.toList.map fun character => UInt8.ofNat character.toNat

/-- `{"items":[{"price":1}]}` -/
def itemsBody : Bytes := asciiBytes "\x7b\"items\":[\x7b\"price\":1\x7d]\x7d"

def itemsData : DataMap Nat := [("items", .array [.object [("price", .number 1)]])]

/-- `{"id":1,"name":2}` -/
def namedBody : Bytes := asciiBytes "\x7b\"id\":1,\"name\":2\x7d"

def namedData : DataMap Nat := [("id", .number 1), ("name", .number 2)]

/-- A library that reads these two documents, and `{"name":2}`. -/
def itemsLibrary : PickerLibrary Nat where
  unmarshalJSON body :=
    .ok (some (if body = itemsBody then itemsData else if body = namedBody then namedData else [("name", .number 2)]))
  unmarshalAny body :=
    .ok (.object (if body = itemsBody then itemsData else if body = namedBody then namedData else [("name", .number 2)]))
  marshalJSON
    | some (("items", _) :: _) => .ok itemsBody
    | _ => .ok (asciiBytes "\x7b\"name\":2\x7d")
  newMapXml _ := .error "XML syntax error"
  mapXml _ := .error "XML syntax error"
  readXml _ := .error "XML syntax error"
  writeXml _ := .error "XML syntax error"
  formatNumber number := toString number
  quote text := text
  compileRegex _ := .error "regexp"

theorem itemsLibrary_roundTrips : itemsLibrary.RoundTrips namedBody "id" where
  mapped data decoded := by
    obtain rfl := Value.object.inj (Except.ok.inj decoded)
    rfl
  distinct data decoded := by
    obtain rfl := Value.object.inj (Except.ok.inj decoded)
    have apart : namedBody ≠ itemsBody := by decide
    rw [if_neg apart, if_pos rfl]
    simp [namedData, Value.Distinct, distinctFields]
  rewritten data decoded := by
    obtain rfl := Value.object.inj (Except.ok.inj decoded)
    exact ⟨asciiBytes "\x7b\"name\":2\x7d", rfl, rfl⟩
  rewrittenXml doc edited read := by cases read

/-- The stages agree with the picker on the path `id` of a sample. -/
theorem path_picker_agrees_id :
    ∃ sample, itemsLibrary.extract namedBody = .ok sample ∧ "id" ∈ sample.paths ∧
      itemsLibrary.Agrees namedBody sample "id" := by
  have extracted : itemsLibrary.extract namedBody = .ok ⟨.json, "", ["id", "name"]⟩ := by decide
  have told : FieldsTold "id" namedData := by
    rw [fieldsTold_iff (by decide)]
    have keys : keysOf "id" = ["id"] := by decide
    rw [keys]
    intro steps member beneath
    have places : fieldPlaces namedData = [[.field "id"], [.field "name"]] := rfl
    rw [places, List.mem_cons, List.mem_singleton] at member
    rcases member with rfl | rfl
    · exact List.prefix_rfl
    · have apart : ¬ Beneath "id" "name" := by
        rintro (same | ⟨rest, same⟩)
        · exact absurd same (by decide)
        · exact absurd (congrArg (fun text => text.toList.head?) same) (by simp)
      exact absurd beneath apart
  refine ⟨_, extracted, by decide, ?_⟩
  exact ((PickerLibrary.path_picker_agrees itemsLibrary_roundTrips extracted).1 namedData rfl rfl (by decide)).mpr told

/-- The picker lists a path into an array, and the filter leaves the fields there. -/
theorem path_picker_disagrees :
    ∃ sample, itemsLibrary.extract itemsBody = .ok sample ∧ "items.price" ∈ sample.paths ∧
      ¬ itemsLibrary.Agrees itemsBody sample "items.price" := by
  have extracted : itemsLibrary.extract itemsBody = .ok ⟨.json, "", ["items", "items.price"]⟩ := by decide
  refine ⟨_, extracted, by decide, ?_⟩
  rintro ⟨out, after, executed, taken, strips⟩
  have kept : itemsLibrary.filterExecute ["items.price"] itemsBody .json =
      .ok { body := itemsBody, format := some .json, result := none } := by decide
  obtain rfl := Except.ok.inj (kept.symm.trans executed)
  have again : itemsLibrary.extractAs itemsBody .json = .ok ⟨.json, "", ["items", "items.price"]⟩ := by decide
  obtain rfl := Except.ok.inj (again.symm.trans taken)
  exact ((strips "items.price").mp (by decide)).2 (.inl rfl)

end MqConnector
