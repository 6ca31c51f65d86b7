/-
This file shows that the diff viewer and the deduplication of revisions agree.

`DiffSnapshots` (`server/snapshot_diff.go`) compares two snapshots by the JSON of the
pipeline's fields and by hashes of the children's JSON maps without identifiers, place
by place. `snapshotForHash` blanks the identifiers and takes one hash of everything.
-/

import MqConnector.Snapshots

namespace MqConnector

open Fields

namespace Revisions

/-! ### The diff -/

/-- `FieldChange`; a field that is left out on a side has no text there. -/
structure FieldChange where
  path : String
  before : Option String
  after : Option String
  deriving DecidableEq

/-- A child that was added or removed. -/
structure ChildEntry where
  id : String
  order : Int
  value : String
  deriving DecidableEq

/-- A child that was changed, with its former id if that was another. -/
structure ChildChange where
  id : String
  beforeID : String
  order : Int
  before : String
  after : String
  deriving DecidableEq

/-- The children that were added, removed and changed. -/
structure ChildDiff where
  added : List ChildEntry
  removed : List ChildEntry
  modified : List ChildChange
  deriving DecidableEq

/-- The difference of two snapshots. -/
structure SnapshotDiff where
  pipelineFields : List FieldChange
  stages : ChildDiff
  transforms : ChildDiff
  routingRules : ChildDiff
  schemaVersion : Option FieldChange
  deriving DecidableEq

/-- Keys that the comparison of pipelines leaves out. -/
def timestampKeys : List String := ["created_at", "updated_at"]

/-- Keys that the hash of a child leaves out. -/
def identifierKeys : List String := ["id", "tenant_id", "pipeline_id"]

section Diff

variable (codec : Codec) (sha256 : String → Fin 32 → UInt8)

/-- The fields that are compared, in their order. -/
def pipelineFieldOrder : List String :=
  (pipelineLayout.tags.map Tag.key).filter fun key => !timestampKeys.contains key

/-- `pipelineToMap`, as the text under each key. -/
def pipelineToMap (pipeline : Option Pipeline) (key : String) : Option String :=
  pipeline.bind fun row =>
    (lookup (without timestampKeys (pipelineLayout.record row)) key).map codec.scalar

/-- `jsonRawEqual`: no text and the empty text are the same bytes. -/
def jsonRawEqual (former latter : Option String) : Bool :=
  former.getD "" = latter.getD ""

/-- The fields of the pipeline that differ. -/
def diffPipelineFields (before after : Option Pipeline) : List FieldChange :=
  pipelineFieldOrder.filterMap fun key =>
    let former := pipelineToMap codec before key
    let latter := pipelineToMap codec after key
    if former.isNone && latter.isNone then none
    else if jsonRawEqual former latter then none
    else some ⟨key, former, latter⟩

/-- A child row with what `positionalDiff` takes of it. -/
structure Child where
  id : String
  order : Int
  record : Record
  deriving DecidableEq

/-- `hashChildMap`: a map is encoded in the order of its keys. -/
def hashChildMap (record : Record) : String :=
  encodeToString (sha256 (codec.record (sorted (without identifierKeys record))))

/-- A former id, left out where it is the same. -/
def maybeBeforeID (afterID beforeID : String) : String :=
  if beforeID = afterID then "" else beforeID

/-- A child as a difference lists it. -/
def childEntry (child : Child) : ChildEntry where
  id := child.id
  order := child.order
  value := codec.record child.record

/-- Children that are matched by their places. -/
def positionalDiff (before after : List Child) : ChildDiff where
  added := (after.drop (min before.length after.length)).map (childEntry codec)
  removed := (before.drop (min before.length after.length)).map (childEntry codec)
  modified := (before.zip after).filterMap fun pair =>
    if hashChildMap codec sha256 pair.1.record = hashChildMap codec sha256 pair.2.record then none
    else some
      { id := pair.2.id
        beforeID := maybeBeforeID pair.2.id pair.1.id
        order := pair.2.order
        before := codec.record pair.1.record
        after := codec.record pair.2.record }

/-- The three kinds of children: how they are encoded, what identifies and what orders them. -/
structure ChildKind (Row : Type) where
  layout : Layout Row
  id : Row → String
  order : Row → Int
  bare : Row → Row
  blanks : ∀ row, layout.slots (bare row) = (layout.slots row).map (Slot.blank identifierKeys)

/-- Stages as children. -/
def stageKind : ChildKind StageRow where
  layout := stageLayout
  id := StageRow.id
  order := StageRow.stageOrder
  bare := bareStage
  blanks _ := rfl

/-- Transforms as children. -/
def transformKind : ChildKind Transform where
  layout := transformLayout
  id := Transform.id
  order := Transform.order
  bare := bareTransform
  blanks _ := rfl

/-- Rules as children. -/
def routingRuleKind : ChildKind RoutingRule where
  layout := routingRuleLayout
  id := RoutingRule.id
  order := RoutingRule.priority
  bare := bareRoutingRule
  blanks _ := rfl

/-- A row as a child of its kind. -/
def ChildKind.child {Row : Type} (kind : ChildKind Row) (row : Row) : Child where
  id := kind.id row
  order := kind.order row
  record := kind.layout.record row

/-- `diffStages`, `diffTransforms` and `diffRoutingRules` are this on their kinds. -/
def ChildKind.diff {Row : Type} (kind : ChildKind Row) (before after : List Row) : ChildDiff :=
  positionalDiff codec sha256 (before.map kind.child) (after.map kind.child)

def diffStages : List StageRow → List StageRow → ChildDiff := stageKind.diff codec sha256

def diffTransforms : List Transform → List Transform → ChildDiff := transformKind.diff codec sha256

def diffRoutingRules : List RoutingRule → List RoutingRule → ChildDiff :=
  routingRuleKind.diff codec sha256

/-- `diffSnapshots`. -/
def diffSnapshots (before after : VersionedSnapshot) : SnapshotDiff where
  pipelineFields := diffPipelineFields codec before.pipeline after.pipeline
  stages := diffStages codec sha256 before.stages after.stages
  transforms := diffTransforms codec sha256 before.transforms after.transforms
  routingRules := diffRoutingRules codec sha256 before.routingRules after.routingRules
  schemaVersion :=
    if before.schemaVersion = after.schemaVersion then none
    else some ⟨"snapshot_schema_version", some (codec.scalar (.number before.schemaVersion)),
      some (codec.scalar (.number after.schemaVersion))⟩

end Diff

/-- No section of the diff has a change. -/
def ChildDiff.Empty (diff : ChildDiff) : Prop :=
  diff.added = [] ∧ diff.removed = [] ∧ diff.modified = []

/-- Nothing differs. -/
def SnapshotDiff.Empty (diff : SnapshotDiff) : Prop :=
  diff.pipelineFields = [] ∧ diff.stages.Empty ∧ diff.transforms.Empty ∧ diff.routingRules.Empty ∧
    diff.schemaVersion = none

/-! ### Replaying a diff -/

section Replay

variable (codec : Codec)

/-- What is found under the keys of the pipeline once the changes are made. -/
def changedFields (changes : List FieldChange) (row : Pipeline) (key : String) : Option Scalar :=
  match changes.find? fun change => change.path = key with
  | some change => change.after.bind codec.parseScalar
  | none => lookup (pipelineLayout.record row) key

/-- The pipeline with the changed fields. -/
def replayFields (changes : List FieldChange) (row : Pipeline) : Pipeline :=
  pipelineLayout.read (changedFields codec changes row)

/-- A row that is read from its text. -/
def ChildKind.decode {Row : Type} (kind : ChildKind Row) (text : String) : Row :=
  kind.layout.read (lookup ((codec.parseRecord text).getD []))

/-- The id of a child before its change. -/
def ChildChange.formerID (change : ChildChange) : String :=
  if change.beforeID = "" then change.id else change.beforeID

/-- A row after its change. -/
def ChildKind.replayed {Row : Type} (kind : ChildKind Row) (changes : List ChildChange) (row : Row) :
    Row :=
  match changes.find? fun change => change.formerID = kind.id row with
  | some change => kind.decode codec change.after
  | none => row

/-- The removed rows go, the modified ones are replaced, the added ones come at the end. -/
def ChildKind.replay {Row : Type} (kind : ChildKind Row) (diff : ChildDiff) (rows : List Row) :
    List Row :=
  ((rows.filter fun row => !diff.removed.any fun entry => entry.id = kind.id row).map
    (kind.replayed codec diff.modified)) ++ diff.added.map fun entry => kind.decode codec entry.value

/-- The version after its change. -/
def replayVersion (change : Option FieldChange) (version : Int) : Int :=
  match change.bind fun change => change.after.bind codec.parseScalar with
  | some (.number value) => value
  | _ => version

/-- The snapshot that a difference leads to. -/
def SnapshotDiff.replay (diff : SnapshotDiff) (snapshot : VersionedSnapshot) : VersionedSnapshot where
  pipeline := snapshot.pipeline.map (replayFields codec diff.pipelineFields)
  stages := stageKind.replay codec diff.stages snapshot.stages
  transforms := transformKind.replay codec diff.transforms snapshot.transforms
  routingRules := routingRuleKind.replay codec diff.routingRules snapshot.routingRules
  schemaVersion := replayVersion codec diff.schemaVersion snapshot.schemaVersion

end Replay

/-! ### Children -/

section Children

variable {Row : Type} {kind : ChildKind Row} {codec : Codec} {sha256 : String → Fin 32 → UInt8}
  {former latter : Row} {before after : List Row}

/-- What the hash of a child is taken of. -/
def ChildKind.hashed (kind : ChildKind Row) (row : Row) : Record :=
  sorted (without identifierKeys (kind.layout.record row))

theorem ChildKind.hashed_eq_iff : kind.hashed former = kind.hashed latter ↔
    kind.bare former = kind.bare latter :=
  (kind.layout.sorted_without_eq_iff identifierKeys).trans
    (kind.layout.blank_eq_iff kind.blanks).symm

/-- The hashes of children tell them apart, and their texts decode. -/
structure ChildKind.Faithful (kind : ChildKind Row) (codec : Codec) (sha256 : String → Fin 32 → UInt8)
    (before after : List Row) : Prop where
  hashes : ∀ former ∈ before, ∀ latter ∈ after,
    sha256 (codec.record (kind.hashed former)) = sha256 (codec.record (kind.hashed latter)) →
      kind.hashed former = kind.hashed latter
  decodes : ∀ row ∈ after, codec.parseRecord (codec.record (kind.layout.record row)) =
    some (kind.layout.record row)

theorem ChildKind.Faithful.tail (faithful : kind.Faithful codec sha256 (former :: before)
    (latter :: after)) : kind.Faithful codec sha256 before after where
  hashes first member second present :=
    faithful.hashes first (List.mem_cons_of_mem _ member) second (List.mem_cons_of_mem _ present)
  decodes row member := faithful.decodes row (List.mem_cons_of_mem _ member)

theorem ChildKind.hashChildMap_eq_iff (apart : sha256 (codec.record (kind.hashed former)) =
      sha256 (codec.record (kind.hashed latter)) → kind.hashed former = kind.hashed latter) :
    hashChildMap codec sha256 (kind.child former).record =
      hashChildMap codec sha256 (kind.child latter).record ↔ kind.bare former = kind.bare latter := by
  rw [← kind.hashed_eq_iff]
  constructor
  · exact fun same => apart (encodeToString_injective same)
  · exact fun same => congrArg (fun record => encodeToString (sha256 (codec.record record))) same

/-- The change that is reported for two children. -/
def ChildKind.change (kind : ChildKind Row) (codec : Codec) (former latter : Row) : ChildChange where
  id := kind.id latter
  beforeID := maybeBeforeID (kind.id latter) (kind.id former)
  order := kind.order latter
  before := codec.record (kind.layout.record former)
  after := codec.record (kind.layout.record latter)

theorem ChildKind.diff_cons [DecidableEq Row] (apart : sha256 (codec.record (kind.hashed former)) =
      sha256 (codec.record (kind.hashed latter)) → kind.hashed former = kind.hashed latter) :
    kind.diff codec sha256 (former :: before) (latter :: after) =
      { kind.diff codec sha256 before after with
        modified := (if kind.bare former = kind.bare latter then []
          else [kind.change codec former latter]) ++ (kind.diff codec sha256 before after).modified } := by
  have places : min (before.length + 1) (after.length + 1) = min before.length after.length + 1 := by
    omega
  unfold ChildKind.diff positionalDiff
  simp only [List.map_cons, List.length_cons, List.length_map, places, List.drop_succ_cons,
    List.zip_cons_cons, List.filterMap_cons, kind.hashChildMap_eq_iff apart]
  congr 1
  by_cases same : kind.bare former = kind.bare latter
  · rw [if_pos same, if_pos same]
    rfl
  · rw [if_neg same, if_neg same]
    rfl

theorem ChildKind.diff_nil_left (after : List Row) :
    kind.diff codec sha256 [] after = ⟨after.map fun row => childEntry codec (kind.child row), [], []⟩ := by
  unfold ChildKind.diff positionalDiff
  simp

theorem ChildKind.diff_nil_right (before : List Row) :
    kind.diff codec sha256 before [] = ⟨[], before.map fun row => childEntry codec (kind.child row), []⟩ := by
  unfold ChildKind.diff positionalDiff
  simp

theorem ChildKind.diff_empty_iff [DecidableEq Row] (faithful : kind.Faithful codec sha256 before after) :
    (kind.diff codec sha256 before after).Empty ↔ before.map kind.bare = after.map kind.bare := by
  induction before generalizing after with
  | nil =>
    rw [kind.diff_nil_left]
    cases after with
    | nil => exact iff_of_true ⟨rfl, rfl, rfl⟩ rfl
    | cons latter after =>
      exact iff_of_false (fun empty => List.cons_ne_nil _ _ empty.1) (List.cons_ne_nil _ _).symm
  | cons former before hypothesis =>
    cases after with
    | nil =>
      rw [kind.diff_nil_right]
      exact iff_of_false (fun empty => List.cons_ne_nil _ _ empty.2.1) (List.cons_ne_nil _ _)
    | cons latter after =>
      have rest := hypothesis faithful.tail
      rw [kind.diff_cons (faithful.hashes former List.mem_cons_self latter List.mem_cons_self),
        List.map_cons, List.map_cons, List.cons_eq_cons, ← rest]
      unfold ChildDiff.Empty
      dsimp only
      rw [List.append_eq_nil_iff]
      have first : (if kind.bare former = kind.bare latter then []
          else [kind.change codec former latter]) = [] ↔ kind.bare former = kind.bare latter := by
        split
        · rename_i same
          exact iff_of_true rfl same
        · rename_i different
          exact iff_of_false (List.cons_ne_nil _ _) different
      rw [first]
      constructor
      · rintro ⟨added, removed, same, modified⟩
        exact ⟨same, added, removed, modified⟩
      · rintro ⟨same, added, removed, modified⟩
        exact ⟨added, removed, same, modified⟩

theorem formerID_change {former latter : Row} (given : kind.id former ≠ "") :
    (kind.change codec former latter).formerID = kind.id former := by
  unfold ChildKind.change ChildChange.formerID maybeBeforeID
  dsimp only
  by_cases same : kind.id former = kind.id latter
  · rw [if_pos same, if_pos rfl, same]
  · rw [if_neg same, if_neg given]

theorem ChildKind.named_before [DecidableEq Row] (faithful : kind.Faithful codec sha256 before after)
    (given : ∀ row ∈ before, kind.id row ≠ "") :
    (∀ entry ∈ (kind.diff codec sha256 before after).removed, entry.id ∈ before.map kind.id) ∧
      ∀ change ∈ (kind.diff codec sha256 before after).modified,
        change.formerID ∈ before.map kind.id := by
  induction before generalizing after with
  | nil =>
    rw [kind.diff_nil_left]
    exact ⟨fun _ member => absurd member List.not_mem_nil, fun _ member => absurd member List.not_mem_nil⟩
  | cons former before hypothesis =>
    cases after with
    | nil =>
      rw [kind.diff_nil_right]
      refine ⟨fun entry member => ?_, fun _ member => absurd member List.not_mem_nil⟩
      obtain ⟨row, among, rfl⟩ := List.mem_map.mp member
      exact List.mem_map_of_mem among
    | cons latter after =>
      obtain ⟨removed, modified⟩ := hypothesis faithful.tail
        fun row member => given row (List.mem_cons_of_mem _ member)
      rw [kind.diff_cons (faithful.hashes former List.mem_cons_self latter List.mem_cons_self)]
      refine ⟨fun entry member => List.mem_cons_of_mem _ (removed entry member), ?_⟩
      intro change member
      rcases List.mem_append.mp member with first | later
      · split at first
        · exact absurd first List.not_mem_nil
        · rw [List.mem_singleton.mp first, formerID_change (given former List.mem_cons_self)]
          exact List.mem_cons_self
      · exact List.mem_cons_of_mem _ (modified change later)

theorem ChildKind.decode_record (faithful : kind.Faithful codec sha256 before after)
    (member : latter ∈ after) :
    kind.decode codec (codec.record (kind.layout.record latter)) = latter := by
  rw [ChildKind.decode, faithful.decodes latter member, Option.getD_some, kind.layout.read_record]

theorem ChildKind.replayed_of_unnamed {changes : List ChildChange} {row : Row}
    (unnamed : ∀ change ∈ changes, change.formerID ≠ kind.id row) :
    kind.replayed codec changes row = row := by
  have none : (changes.find? fun change => change.formerID = kind.id row) = none :=
    List.find?_eq_none.mpr fun change member same => unnamed change member (of_decide_eq_true same)
  rw [ChildKind.replayed, none]

theorem ChildKind.replayed_append {others changes : List ChildChange} {row : Row}
    (unnamed : ∀ change ∈ others, change.formerID ≠ kind.id row) :
    kind.replayed codec (others ++ changes) row = kind.replayed codec changes row := by
  have none : (others.find? fun change => change.formerID = kind.id row) = none :=
    List.find?_eq_none.mpr fun change member same => unnamed change member (of_decide_eq_true same)
  rw [ChildKind.replayed, List.find?_append, none, Option.none_or]
  rfl

theorem ChildKind.replay_cons [DecidableEq Row]
    (faithful : kind.Faithful codec sha256 (former :: before) (latter :: after))
    (distinct : ((former :: before).map kind.id).Nodup)
    (given : ∀ row ∈ former :: before, kind.id row ≠ "") :
    kind.replay codec (kind.diff codec sha256 (former :: before) (latter :: after)) (former :: before) =
      (if kind.bare former = kind.bare latter then former else latter) ::
        kind.replay codec (kind.diff codec sha256 before after) before := by
  obtain ⟨apart, -⟩ := List.nodup_cons.mp distinct
  obtain ⟨removed, modified⟩ := kind.named_before faithful.tail
    fun row member => given row (List.mem_cons_of_mem _ member)
  have named := @formerID_change _ kind codec former latter (given former List.mem_cons_self)
  rw [kind.diff_cons (faithful.hashes former List.mem_cons_self latter List.mem_cons_self)]
  have stays : (!(kind.diff codec sha256 before after).removed.any fun entry =>
      decide (entry.id = kind.id former)) = true := by
    rw [Bool.not_eq_true', List.any_eq_false]
    exact fun entry member same => apart (of_decide_eq_true same ▸ removed entry member)
  have head : kind.replayed codec ((if kind.bare former = kind.bare latter then []
      else [kind.change codec former latter]) ++ (kind.diff codec sha256 before after).modified)
        former = if kind.bare former = kind.bare latter then former else latter := by
    split
    · exact kind.replayed_of_unnamed fun change member same => apart (same ▸ modified change member)
    · have found : (([kind.change codec former latter] ++
          (kind.diff codec sha256 before after).modified).find? fun change =>
            change.formerID = kind.id former) = some (kind.change codec former latter) :=
        List.find?_cons_of_pos (decide_eq_true named)
      rw [ChildKind.replayed, found]
      exact kind.decode_record faithful List.mem_cons_self
  unfold ChildKind.replay
  dsimp only
  rw [List.filter_cons, if_pos stays, List.map_cons, List.cons_append]
  refine congrArg₂ List.cons head (congrArg (· ++ _) (List.map_congr_left fun row member => ?_))
  refine kind.replayed_append fun change changed same => ?_
  have here := (List.mem_filter.mp member).1
  split at changed
  · exact absurd changed List.not_mem_nil
  · rw [List.mem_singleton.mp changed, named] at same
    exact apart (same ▸ List.mem_map_of_mem here)

theorem ChildKind.replay_diff [DecidableEq Row] (faithful : kind.Faithful codec sha256 before after)
    (distinct : (before.map kind.id).Nodup) (given : ∀ row ∈ before, kind.id row ≠ "") :
    (kind.replay codec (kind.diff codec sha256 before after) before).map kind.bare =
      after.map kind.bare := by
  induction before generalizing after with
  | nil =>
    have decoded : (after.map fun row => childEntry codec (kind.child row)).map
        (fun entry => kind.decode codec entry.value) = after := by
      rw [List.map_map]
      refine (List.map_congr_left fun row member => ?_).trans (List.map_id' after)
      exact kind.decode_record faithful member
    rw [kind.diff_nil_left]
    show ((after.map fun row => childEntry codec (kind.child row)).map
      fun entry => kind.decode codec entry.value).map kind.bare = _
    rw [decoded]
  | cons former before hypothesis =>
    cases after with
    | nil =>
      rw [kind.diff_nil_right]
      have gone : ((former :: before).filter fun row =>
          !((former :: before).map fun row => childEntry codec (kind.child row)).any fun entry =>
            decide (entry.id = kind.id row)) = [] := by
        refine List.filter_eq_nil_iff.mpr fun row member stays => ?_
        rw [Bool.not_eq_true', List.any_eq_false] at stays
        exact stays _ (List.mem_map_of_mem member) (decide_eq_true rfl)
      unfold ChildKind.replay
      dsimp only
      rw [gone]
      rfl
    | cons latter after =>
      have rest := hypothesis faithful.tail (List.nodup_cons.mp distinct).2
        fun row member => given row (List.mem_cons_of_mem _ member)
      rw [kind.replay_cons faithful distinct given, List.map_cons, List.map_cons, rest]
      split
      · rename_i same
        rw [same]
      · rfl

end Children

/-! ### The fields of the pipeline -/

section PipelineFields

variable {codec : Codec} {former latter : Pipeline}

/-- `encoding/json` on the fields of a pipeline: their texts are not empty and decode. -/
def FaithfulFields (codec : Codec) (row : Pipeline) : Prop :=
  ∀ entry ∈ pipelineLayout.record row,
    codec.scalar entry.2 ≠ "" ∧ codec.parseScalar (codec.scalar entry.2) = some entry.2

theorem mem_record_of_lookup {record : Record} {key : String} {value : Scalar}
    (found : lookup record key = some value) : ∃ entry ∈ record, entry.2 = value := by
  obtain ⟨entry, present, same⟩ := Option.map_eq_some_iff.mp found
  exact ⟨entry, List.mem_of_find?_eq_some present, same⟩

theorem FaithfulFields.decodes (faithful : FaithfulFields codec former) (key : String) :
    ((lookup (pipelineLayout.record former) key).map codec.scalar).bind codec.parseScalar =
      lookup (pipelineLayout.record former) key := by
  cases found : lookup (pipelineLayout.record former) key with
  | none => rfl
  | some value =>
    obtain ⟨entry, member, rfl⟩ := mem_record_of_lookup found
    exact (faithful entry member).2

theorem FaithfulFields.jsonRawEqual_iff (faithful : FaithfulFields codec former)
    (also : FaithfulFields codec latter) (key : String) :
    jsonRawEqual ((lookup (pipelineLayout.record former) key).map codec.scalar)
        ((lookup (pipelineLayout.record latter) key).map codec.scalar) = true ↔
      lookup (pipelineLayout.record former) key = lookup (pipelineLayout.record latter) key := by
  have nonempty : ∀ {row : Pipeline}, FaithfulFields codec row → ∀ {value : Scalar},
      lookup (pipelineLayout.record row) key = some value → codec.scalar value ≠ "" := by
    intro row known value found
    obtain ⟨entry, member, rfl⟩ := mem_record_of_lookup found
    exact (known entry member).1
  constructor
  · intro same
    have texts := of_decide_eq_true same
    rw [← faithful.decodes, ← also.decodes]
    cases first : lookup (pipelineLayout.record former) key with
    | none =>
      cases second : lookup (pipelineLayout.record latter) key with
      | none => rfl
      | some value =>
        rw [first, second] at texts
        exact absurd texts.symm (nonempty also second)
    | some value =>
      cases second : lookup (pipelineLayout.record latter) key with
      | none =>
        rw [first, second] at texts
        exact absurd texts (nonempty faithful first)
      | some other =>
        rw [first, second] at texts
        exact congrArg (fun text => (some text).bind codec.parseScalar) texts
  · intro same
    rw [same]
    exact decide_eq_true rfl

theorem mem_pipelineFieldOrder {key : String} : key ∈ pipelineFieldOrder ↔
    (∃ tag ∈ pipelineLayout.tags, tag.key = key) ∧ key ∉ timestampKeys := by
  unfold pipelineFieldOrder
  rw [List.mem_filter, List.mem_map, Bool.not_eq_true', List.contains_eq_mem, decide_eq_false_iff_not]

theorem pipelineToMap_eq (row : Pipeline) {key : String} (kept : key ∈ pipelineFieldOrder) :
    pipelineToMap codec (some row) key = (lookup (pipelineLayout.record row) key).map codec.scalar := by
  rw [pipelineToMap, Option.bind_some, lookup_without (mem_pipelineFieldOrder.mp kept).2]

theorem mem_diffPipelineFields (faithful : FaithfulFields codec former)
    (also : FaithfulFields codec latter) {change : FieldChange} :
    change ∈ diffPipelineFields codec (some former) (some latter) ↔
      change.path ∈ pipelineFieldOrder ∧
        lookup (pipelineLayout.record former) change.path ≠
          lookup (pipelineLayout.record latter) change.path ∧
        change = ⟨change.path, (lookup (pipelineLayout.record former) change.path).map codec.scalar,
          (lookup (pipelineLayout.record latter) change.path).map codec.scalar⟩ := by
  unfold diffPipelineFields
  rw [List.mem_filterMap]
  have reported : ∀ key ∈ pipelineFieldOrder, ∀ change : FieldChange,
      (if (pipelineToMap codec (some former) key).isNone &&
          (pipelineToMap codec (some latter) key).isNone then none
        else if jsonRawEqual (pipelineToMap codec (some former) key)
          (pipelineToMap codec (some latter) key) then none
        else some ⟨key, pipelineToMap codec (some former) key,
          pipelineToMap codec (some latter) key⟩) = some change ↔
      lookup (pipelineLayout.record former) key ≠ lookup (pipelineLayout.record latter) key ∧
        change = ⟨key, (lookup (pipelineLayout.record former) key).map codec.scalar,
          (lookup (pipelineLayout.record latter) key).map codec.scalar⟩ := by
    intro key kept change
    rw [pipelineToMap_eq former kept, pipelineToMap_eq latter kept]
    split
    · rename_i absent
      obtain ⟨first, second⟩ := (Bool.and_eq_true _ _).mp absent
      rw [Option.isNone_map, Option.isNone_iff_eq_none] at first second
      exact iff_of_false (Option.some_ne_none _).symm fun both => both.1 (first.trans second.symm)
    · split
      · rename_i same
        exact iff_of_false (Option.some_ne_none _).symm fun both =>
          both.1 ((faithful.jsonRawEqual_iff also key).mp same)
      · rename_i different
        rw [Option.some_inj, eq_comm, and_iff_right (mt (faithful.jsonRawEqual_iff also key).mpr different)]
  constructor
  · rintro ⟨key, kept, found⟩
    obtain ⟨different, rfl⟩ := (reported key kept change).mp found
    exact ⟨kept, different, rfl⟩
  · rintro ⟨kept, different, same⟩
    exact ⟨change.path, kept, (reported change.path kept change).mpr ⟨different, same⟩⟩

theorem lookup_timestamp (row other : Pipeline) {key : String} (timestamp : key ∈ timestampKeys) :
    lookup (pipelineLayout.record row) key = lookup (pipelineLayout.record other) key := by
  have zero : ∀ row, lookup (pipelineLayout.record row) key = some (.text zeroTimeText) := by
    intro row
    have slot : (⟨key, false, .text zeroTimeText⟩ : Slot) ∈ pipelineLayout.slots row := by
      rcases List.mem_cons.mp timestamp with rfl | later
      · simp [pipelineLayout]
      · rw [List.mem_singleton.mp later]
        simp [pipelineLayout]
    exact lookup_encode (pipelineLayout.distinct_slots row) slot
  rw [zero, zero]

theorem reported_of_ne (faithful : FaithfulFields codec former) (also : FaithfulFields codec latter)
    {tag : Tag} (member : tag ∈ pipelineLayout.tags)
    (different : lookup (pipelineLayout.record former) tag.key ≠
      lookup (pipelineLayout.record latter) tag.key) :
    ⟨tag.key, (lookup (pipelineLayout.record former) tag.key).map codec.scalar,
        (lookup (pipelineLayout.record latter) tag.key).map codec.scalar⟩ ∈
      diffPipelineFields codec (some former) (some latter) := by
  refine (mem_diffPipelineFields faithful also).mpr ⟨?_, different, rfl⟩
  refine mem_pipelineFieldOrder.mpr ⟨⟨tag, member, rfl⟩, fun timestamp => ?_⟩
  exact different (lookup_timestamp former latter timestamp)

theorem diffPipelineFields_eq_nil_iff (faithful : FaithfulFields codec former)
    (also : FaithfulFields codec latter) :
    diffPipelineFields codec (some former) (some latter) = [] ↔ former = latter := by
  rw [pipelineLayout.eq_iff_lookup, List.eq_nil_iff_forall_not_mem]
  constructor
  · intro none tag member
    by_contra different
    exact none _ (reported_of_ne faithful also member different)
  · intro agrees change member
    obtain ⟨kept, different, -⟩ := (mem_diffPipelineFields faithful also).mp member
    obtain ⟨⟨tag, among, same⟩, -⟩ := mem_pipelineFieldOrder.mp kept
    exact different (same ▸ agrees tag among)

theorem replayFields_diff (faithful : FaithfulFields codec former) (also : FaithfulFields codec latter) :
    replayFields codec (diffPipelineFields codec (some former) (some latter)) former = latter := by
  refine pipelineLayout.read_eq_of_agrees fun tag member => ?_
  unfold changedFields
  cases found : (diffPipelineFields codec (some former) (some latter)).find?
    fun change => change.path = tag.key with
  | some change =>
    have passes := List.find?_some found
    have path : change.path = tag.key := of_decide_eq_true passes
    obtain ⟨-, -, same⟩ := (mem_diffPipelineFields faithful also).mp (List.mem_of_find?_eq_some found)
    rw [same, path]
    exact also.decodes tag.key
  | none =>
    by_contra different
    have reported := reported_of_ne faithful also member different
    exact List.find?_eq_none.mp found _ reported (decide_eq_true rfl)

end PipelineFields

/-! ### Diffs and revisions -/

/-- A snapshot as it is stored: with its pipeline, and with children that have ids of their own. -/
structure StoredSnapshot extends VersionedSnapshot where
  row : Pipeline
  present : pipeline = some row
  stageIDs : (stages.map StageRow.id).Nodup
  transformIDs : (transforms.map Transform.id).Nodup
  routingRuleIDs : (routingRules.map RoutingRule.id).Nodup
  stagesGiven : ∀ stage ∈ stages, stage.id ≠ ""
  transformsGiven : ∀ transform ∈ transforms, transform.id ≠ ""
  routingRulesGiven : ∀ rule ∈ routingRules, rule.id ≠ ""

/-- `encoding/json` gives back the values of two snapshots, and SHA-256 tells the texts it is given of
them apart. -/
structure Faithful (codec : Codec) (sha256 : String → Fin 32 → UInt8) (former latter : StoredSnapshot) :
    Prop where
  formerFields : FaithfulFields codec former.row
  latterFields : FaithfulFields codec latter.row
  stages : stageKind.Faithful codec sha256 former.stages latter.stages
  transforms : transformKind.Faithful codec sha256 former.transforms latter.transforms
  routingRules : routingRuleKind.Faithful codec sha256 former.routingRules latter.routingRules
  version : codec.parseScalar (codec.scalar (.number latter.schemaVersion)) =
    some (.number latter.schemaVersion)
  documents : codec.document (snapshotForHash former.toVersionedSnapshot).document =
    codec.document (snapshotForHash latter.toVersionedSnapshot).document →
      (snapshotForHash former.toVersionedSnapshot).document =
        (snapshotForHash latter.toVersionedSnapshot).document
  hashes : sha256 (codec.document (snapshotForHash former.toVersionedSnapshot).document) =
    sha256 (codec.document (snapshotForHash latter.toVersionedSnapshot).document) →
      codec.document (snapshotForHash former.toVersionedSnapshot).document =
        codec.document (snapshotForHash latter.toVersionedSnapshot).document

variable {codec : Codec} {sha256 : String → Fin 32 → UInt8} {former latter : StoredSnapshot}

/-- A difference is empty exactly if the hashed parts are the same. -/
theorem diffSnapshots_empty_iff (faithful : Faithful codec sha256 former latter) :
    (diffSnapshots codec sha256 former.toVersionedSnapshot latter.toVersionedSnapshot).Empty ↔
      snapshotForHash former.toVersionedSnapshot = snapshotForHash latter.toVersionedSnapshot := by
  have fields := diffPipelineFields_eq_nil_iff faithful.formerFields faithful.latterFields
  have version : (if former.schemaVersion = latter.schemaVersion then none
      else some (⟨"snapshot_schema_version", some (codec.scalar (.number former.schemaVersion)),
        some (codec.scalar (.number latter.schemaVersion))⟩ : FieldChange)) = none ↔
          former.schemaVersion = latter.schemaVersion := by
    split
    · rename_i same
      exact iff_of_true rfl same
    · rename_i different
      exact iff_of_false (Option.some_ne_none _) different
  unfold SnapshotDiff.Empty diffSnapshots diffStages diffTransforms diffRoutingRules snapshotForHash
  dsimp only
  rw [former.present, latter.present, fields, stageKind.diff_empty_iff faithful.stages,
    transformKind.diff_empty_iff faithful.transforms,
    routingRuleKind.diff_empty_iff faithful.routingRules, version, VersionedSnapshot.mk.injEq,
    PipelineSnapshot.mk.injEq, Option.some_inj]
  constructor
  · rintro ⟨row, stages, transforms, routingRules, version⟩
    exact ⟨⟨row, stages, transforms, routingRules⟩, version⟩
  · rintro ⟨⟨row, stages, transforms, routingRules⟩, version⟩
    exact ⟨row, stages, transforms, routingRules, version⟩

theorem VersionedSnapshot.document_injective : Function.Injective VersionedSnapshot.document := by
  intro former latter same
  rw [← former.snapshot_document, same, latter.snapshot_document]

theorem document_eq_iff (faithful : Faithful codec sha256 former latter) :
    codec.document (snapshotForHash former.toVersionedSnapshot).document =
      codec.document (snapshotForHash latter.toVersionedSnapshot).document ↔
        snapshotForHash former.toVersionedSnapshot = snapshotForHash latter.toVersionedSnapshot := by
  constructor
  · exact fun same => VersionedSnapshot.document_injective (faithful.documents same)
  · exact fun same => congrArg (fun snapshot : VersionedSnapshot => codec.document snapshot.document) same

theorem create_unchanged_iff {revisions : List PipelineRevision} {tenantID : String}
    {latest revision : PipelineRevision}
    (newest : PipelineRevision.newest
      (PipelineRevision.ofPipeline revisions tenantID revision.pipelineID) = some latest) :
    (PipelineRevision.create revisions tenantID revision).1 = revisions ↔
      latest.snapshotHash = revision.snapshotHash := by
  unfold PipelineRevision.create
  rw [newest]
  dsimp only
  split
  · rename_i same
    exact iff_of_true rfl (beq_iff_eq.mp same)
  · rename_i different
    refine iff_of_false (fun unchanged => ?_) fun same => different (beq_iff_eq.mpr same)
    exact absurd (List.self_eq_append_right.mp unchanged.symm) (List.cons_ne_nil _ _)

/-- Replaying a difference leads to the later snapshot. -/
theorem replay_diffSnapshots (faithful : Faithful codec sha256 former latter) :
    snapshotForHash ((diffSnapshots codec sha256 former.toVersionedSnapshot
        latter.toVersionedSnapshot).replay codec former.toVersionedSnapshot) =
      snapshotForHash latter.toVersionedSnapshot := by
  have fields := replayFields_diff faithful.formerFields faithful.latterFields
  have stages := stageKind.replay_diff faithful.stages former.stageIDs former.stagesGiven
  have transforms := transformKind.replay_diff faithful.transforms former.transformIDs
    former.transformsGiven
  have routingRules := routingRuleKind.replay_diff faithful.routingRules former.routingRuleIDs
    former.routingRulesGiven
  have version : replayVersion codec (if former.schemaVersion = latter.schemaVersion then none
      else some ⟨"snapshot_schema_version", some (codec.scalar (.number former.schemaVersion)),
        some (codec.scalar (.number latter.schemaVersion))⟩) former.schemaVersion =
          latter.schemaVersion := by
    split
    · rename_i same
      exact same
    · unfold replayVersion
      rw [Option.bind_some, Option.bind_some, faithful.version]
  unfold snapshotForHash SnapshotDiff.replay diffSnapshots
  dsimp only
  rw [former.present, latter.present, Option.map_some, fields, version]
  rw [show (stageKind.replay codec (diffStages codec sha256 former.stages latter.stages)
      former.stages).map bareStage = latter.stages.map bareStage from stages,
    show (transformKind.replay codec (diffTransforms codec sha256 former.transforms latter.transforms)
      former.transforms).map bareTransform = latter.transforms.map bareTransform from transforms,
    show (routingRuleKind.replay codec (diffRoutingRules codec sha256 former.routingRules
      latter.routingRules) former.routingRules).map bareRoutingRule =
        latter.routingRules.map bareRoutingRule from routingRules]

/-- The diff viewer reports no change exactly if the projections that are hashed have the same text,
which is exactly if saving the newer snapshot after the older one creates no revision; and the diff
turns the older snapshot into the newer one. -/
theorem diff_agrees_with_dedup (codec : Codec) (sha256 : String → Fin 32 → UInt8)
    (former latter : StoredSnapshot) (faithful : Faithful codec sha256 former latter) :
    let diff := diffSnapshots codec sha256 former.toVersionedSnapshot latter.toVersionedSnapshot
    (diff.Empty ↔ codec.document (snapshotForHash former.toVersionedSnapshot).document =
      codec.document (snapshotForHash latter.toVersionedSnapshot).document) ∧
    (∀ revisions tenantID latest revision, PipelineRevision.newest
        (PipelineRevision.ofPipeline revisions tenantID revision.pipelineID) = some latest →
      latest.snapshotHash = snapshotHash codec sha256 former.toVersionedSnapshot →
      revision.snapshotHash = snapshotHash codec sha256 latter.toVersionedSnapshot →
        ((PipelineRevision.create revisions tenantID revision).1 = revisions ↔ diff.Empty)) ∧
    snapshotForHash (diff.replay codec former.toVersionedSnapshot) =
      snapshotForHash latter.toVersionedSnapshot := by
  intro diff
  have empty : diff.Empty ↔ codec.document (snapshotForHash former.toVersionedSnapshot).document =
      codec.document (snapshotForHash latter.toVersionedSnapshot).document :=
    (diffSnapshots_empty_iff faithful).trans (document_eq_iff faithful).symm
  refine ⟨empty, ?_, replay_diffSnapshots faithful⟩
  intro revisions tenantID latest revision newest older newer
  rw [create_unchanged_iff newest, older, newer, empty]
  constructor
  · exact fun same => faithful.hashes (encodeToString_injective same)
  · exact fun same => congrArg (fun text => encodeToString (sha256 text)) same

/-! ### Samples -/

/-- A snapshot of a pipeline with one stage and the given other children. -/
def sampleSnapshot (name stageType stageID : String) (transforms : List Transform)
    (routingRules : List RoutingRule) : VersionedSnapshot where
  pipeline := some
    { id := "p1", tenantID := "t", name, sourceID := "c1", destinationID := "c2" }
  stages := [
    { id := stageID, tenantID := "t", pipelineID := "p1", stageType, stageConfig := "\x7b\x7d" }]
  transforms := transforms
  routingRules := routingRules

def olderSnapshot : StoredSnapshot where
  toVersionedSnapshot := sampleSnapshot "orders" "script" "g1"
    [{ id := "m1", tenantID := "t", pipelineID := "p1", transformType := "mask" }] []
  row := { id := "p1", tenantID := "t", name := "orders", sourceID := "c1", destinationID := "c2" }
  present := rfl
  stageIDs := by decide
  transformIDs := by decide
  routingRuleIDs := by decide
  stagesGiven := by decide
  transformsGiven := by decide
  routingRulesGiven := by decide

def newerSnapshot : StoredSnapshot where
  toVersionedSnapshot := sampleSnapshot "invoices" "filter" "g2" []
    [{ id := "r1", tenantID := "t", pipelineID := "p1", conditionOperator := "exists",
       destinationID := "c1" }]
  row := { id := "p1", tenantID := "t", name := "invoices", sourceID := "c1", destinationID := "c2" }
  present := rfl
  stageIDs := by decide
  transformIDs := by decide
  routingRuleIDs := by decide
  stagesGiven := by decide
  transformsGiven := by decide
  routingRulesGiven := by decide

/-- SHA-256 on the texts that are hashed of the two. -/
def sampleSha256 (text : String) (index : Fin 32) : UInt8 :=
  UInt8.ofNat ((if text = plainDocument (snapshotForHash olderSnapshot.toVersionedSnapshot).document then
      0xa50ca2b746253443926da132e3cf47ac0f381c166ffc9239923b1c76d0a553ec
    else if text = plainDocument (snapshotForHash newerSnapshot.toVersionedSnapshot).document then
      0x64a4355cfe3e50f67afb7ece16012518136e2ea2c71187380e534abca8ec3c7c
    else if text = "\x7b\"enabled\":true,\"stage_config\":\"\x7b\x7d\",\"stage_order\":0," ++
        "\"stage_type\":\"script\"\x7d" then
      0x300a2d567d46320c709d128af52b7804f6d4213276d578935f3f21a51837b8bf
    else if text = "\x7b\"enabled\":true,\"stage_config\":\"\x7b\x7d\",\"stage_order\":0," ++
        "\"stage_type\":\"filter\"\x7d" then
      0x0b34dab4cae0b3fb2ff432d23ca6563f846feb2fa70eed4e38fb7a490979365c
    else 0) / 256 ^ (31 - index.val))

/-- `encoding/json` on the two. -/
def sampleCodec : Codec :=
  plainCodec
    [(snapshotForHash olderSnapshot.toVersionedSnapshot).document,
      (snapshotForHash newerSnapshot.toVersionedSnapshot).document]
    (newerSnapshot.stages.map stageLayout.record ++
      newerSnapshot.routingRules.map routingRuleLayout.record)
    ((pipelineLayout.record olderSnapshot.row ++ pipelineLayout.record newerSnapshot.row).map Prod.snd)

theorem faithful_sample : Faithful sampleCodec sampleSha256 olderSnapshot newerSnapshot where
  formerFields := by
    unfold FaithfulFields
    decide
  latterFields := by
    unfold FaithfulFields
    decide
  stages := ⟨by
    intro former member latter present same
    obtain rfl := List.mem_singleton.mp member
    obtain rfl := List.mem_singleton.mp present
    exact absurd (congrFun same 0) (by decide), by decide⟩
  transforms := ⟨fun _ _ _ present => absurd present List.not_mem_nil, by decide⟩
  routingRules := ⟨fun _ member => absurd member List.not_mem_nil, by decide +kernel⟩
  version := by decide
  documents same := absurd same (by decide)
  hashes same := absurd (congrFun same 0) (by decide +kernel)

/-- A changed name, a changed stage, a removed transform and an added rule: the diff is not empty, the
texts differ, and the diff turns the older snapshot into the newer one. -/
theorem sample_replayed :
    ¬ (diffSnapshots sampleCodec sampleSha256 olderSnapshot.toVersionedSnapshot
        newerSnapshot.toVersionedSnapshot).Empty ∧
      snapshotForHash ((diffSnapshots sampleCodec sampleSha256 olderSnapshot.toVersionedSnapshot
          newerSnapshot.toVersionedSnapshot).replay sampleCodec olderSnapshot.toVersionedSnapshot) =
        snapshotForHash newerSnapshot.toVersionedSnapshot := by
  have agrees := diff_agrees_with_dedup sampleCodec sampleSha256 olderSnapshot newerSnapshot faithful_sample
  refine ⟨fun empty => ?_, agrees.2.2⟩
  exact absurd (agrees.1.mp empty) (by decide)

end Revisions

end MqConnector
