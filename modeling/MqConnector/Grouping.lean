/-
This file asks whether `aggregate` groups by the labels it is given, and whether
`histogram_quantile` merges the buckets of one histogram.

A group is found by a text: the entries `name=value` with commas between or behind them.
A value may have commas of its own, so the text may be read in more than one way. Groups
are exact as long as no two samples that should be apart are cut alike at their commas.
-/

import MqConnector.LabelMatching

namespace MqConnector

namespace Slo

namespace Eval

/-! ### Groups -/

section Groups

variable {Sample Item Other : Type}

/-- The groups that a loop over samples makes. -/
def grouped (key : Sample → String) (labels : Sample → Labels) (item : Sample → Item)
    (samples : List Sample) : List (Group Item) :=
  samples.foldl (fun groups sample => addToGroup groups (key sample) (labels sample) (item sample)) []

/-- The groups of these samples: one for every key, with the items of all samples of the key and the
labels of one of them. -/
structure GroupsOf (key : Sample → String) (labels : Sample → Labels) (item : Sample → Item)
    (samples : List Sample) (groups : List (Group Item)) : Prop where
  distinct : (groups.map (·.key)).Nodup
  items : ∀ group ∈ groups,
    group.items = (samples.filter fun sample => decide (key sample = group.key)).map item
  labels : ∀ group ∈ groups, ∃ sample ∈ samples, key sample = group.key ∧ group.labels = labels sample
  covers : ∀ sample ∈ samples, ∃ group ∈ groups, group.key = key sample

variable {key : Sample → String} {labels : Sample → Labels} {item : Sample → Item}

theorem GroupsOf.add {samples : List Sample} {groups : List (Group Item)}
    (made : GroupsOf key labels item samples groups) (sample : Sample) :
    GroupsOf key labels item (samples ++ [sample])
      (addToGroup groups (key sample) (labels sample) (item sample)) := by
  rw [addToGroup]
  split
  case isTrue known =>
    obtain ⟨there, present, same⟩ := List.any_eq_true.mp known
    have same := of_decide_eq_true same
    have keys (group : Group Item) : (if group.key = key sample then
        { group with items := group.items ++ [item sample] } else group).key = group.key := by
      split <;> rfl
    refine ⟨?_, ?_, ?_, ?_⟩
    · rw [List.map_map]
      exact (List.map_congr_left (fun group _ => keys group)) ▸ made.distinct
    · intro group member
      obtain ⟨old, oldMember, rfl⟩ := List.mem_map.mp member
      rw [keys old, List.filter_append, List.map_append, ← made.items old oldMember]
      split
      case isTrue hit => simp [hit]
      case isFalse miss => simp [Ne.symm miss]
    · intro group member
      obtain ⟨old, oldMember, rfl⟩ := List.mem_map.mp member
      obtain ⟨first, firstMember, firstKey, firstLabels⟩ := made.labels old oldMember
      refine ⟨first, List.mem_append_left _ firstMember, firstKey.trans (keys old).symm, ?_⟩
      rw [← firstLabels]
      split <;> rfl
    · intro other member
      have reached : ∃ group ∈ groups, group.key = key other := by
        rcases List.mem_append.mp member with before | last
        · exact made.covers other before
        · exact ⟨there, present, by rw [same, List.mem_singleton.mp last]⟩
      obtain ⟨group, groupMember, groupKey⟩ := reached
      exact ⟨_, List.mem_map_of_mem groupMember, (keys group).trans groupKey⟩
  case isFalse unknown =>
    have fresh : ∀ group ∈ groups, group.key ≠ key sample := fun group member same =>
      unknown (List.any_eq_true.mpr ⟨group, member, decide_eq_true same⟩)
    have unseen : ∀ other ∈ samples, key other ≠ key sample := fun other member same => by
      obtain ⟨group, groupMember, groupKey⟩ := made.covers other member
      exact fresh group groupMember (groupKey.trans same)
    refine ⟨?_, ?_, ?_, ?_⟩
    · rw [List.map_append, List.nodup_append]
      refine ⟨made.distinct, List.nodup_singleton _, ?_⟩
      intro old oldMember new newMember
      obtain ⟨group, member, rfl⟩ := List.mem_map.mp oldMember
      rw [List.mem_map] at newMember
      obtain ⟨_, newMember, rfl⟩ := newMember
      rw [List.mem_singleton.mp newMember]
      exact fresh group member
    · intro group member
      rcases List.mem_append.mp member with old | new
      · rw [List.filter_append, List.map_append, ← made.items group old]
        simp [(fresh group old).symm]
      · rw [List.mem_singleton.mp new, List.filter_append,
          List.filter_eq_nil_iff.mpr fun other present => by simp [unseen other present]]
        simp
    · intro group member
      rcases List.mem_append.mp member with old | new
      · obtain ⟨first, firstMember, rest⟩ := made.labels group old
        exact ⟨first, List.mem_append_left _ firstMember, rest⟩
      · rw [List.mem_singleton.mp new]
        exact ⟨sample, List.mem_append_right _ (List.mem_singleton_self _), rfl, rfl⟩
    · intro other member
      rcases List.mem_append.mp member with before | last
      · obtain ⟨group, groupMember, groupKey⟩ := made.covers other before
        exact ⟨group, List.mem_append_left _ groupMember, groupKey⟩
      · exact ⟨_, List.mem_append_right _ (List.mem_singleton_self _), by rw [List.mem_singleton.mp last]⟩

theorem groupsOf_grouped (key : Sample → String) (labels : Sample → Labels) (item : Sample → Item)
    (samples : List Sample) : GroupsOf key labels item samples (grouped key labels item samples) := by
  induction samples using List.reverseRecOn with
  | nil => exact ⟨List.nodup_nil, by simp [grouped], by simp [grouped], by simp⟩
  | append_singleton before sample hypothesis =>
    rw [grouped, List.foldl_append]
    exact hypothesis.add sample

theorem mem_group_iff {samples : List Sample} {first second : Sample} (firstMember : first ∈ samples)
    (secondMember : second ∈ samples) :
    (∃ group ∈ grouped key labels id samples, first ∈ group.items ∧ second ∈ group.items) ↔
      key first = key second := by
  have made := groupsOf_grouped key labels id samples
  constructor
  · rintro ⟨group, member, firstIn, secondIn⟩
    rw [made.items group member, List.map_id, List.mem_filter, decide_eq_true_eq] at firstIn secondIn
    rw [firstIn.2, secondIn.2]
  · intro same
    obtain ⟨group, member, groupKey⟩ := made.covers first firstMember
    refine ⟨group, member, ?_⟩
    rw [made.items group member, List.map_id, List.mem_filter, List.mem_filter, decide_eq_true_eq,
      decide_eq_true_eq, groupKey]
    exact ⟨⟨firstMember, rfl⟩, secondMember, same.symm⟩

theorem exists_labels_of_group {samples : List Sample} {group : Group Sample}
    (member : group ∈ grouped key labels id samples) :
    ∃ sample ∈ samples, sample ∈ group.items ∧ group.labels = labels sample := by
  have made := groupsOf_grouped key labels id samples
  obtain ⟨sample, present, sampleKey, sampleLabels⟩ := made.labels group member
  refine ⟨sample, present, ?_, sampleLabels⟩
  rw [made.items group member, List.map_id, List.mem_filter, decide_eq_true_eq]
  exact ⟨present, sampleKey⟩

theorem flatMap_addToGroup {groups : List (Group Item)} (distinct : (groups.map (·.key)).Nodup)
    (newKey : String) (newLabels : Labels) (new : Item) :
    ((addToGroup groups newKey newLabels new).flatMap (·.items)).Perm
      (groups.flatMap (·.items) ++ [new]) := by
  rw [addToGroup]
  split
  case isFalse => simp
  case isTrue known =>
    induction groups with
    | nil => simp at known
    | cons group rest hypothesis =>
      rw [List.map_cons, List.nodup_cons] at distinct
      rw [List.map_cons, List.flatMap_cons, List.flatMap_cons]
      by_cases hit : group.key = newKey
      · have others : rest.map (fun group => if group.key = newKey then
            { group with items := group.items ++ [new] } else group) = rest := by
          refine (List.map_congr_left fun other member => ?_).trans (List.map_id rest)
          rw [if_neg fun same => distinct.1 (List.mem_map.mpr ⟨other, member, same.trans hit.symm⟩)]
          rfl
        rw [if_pos hit, others, List.append_assoc, List.append_assoc]
        exact List.Perm.append_left _ List.perm_append_comm
      · rw [if_neg hit, List.append_assoc]
        refine List.Perm.append_left _ (hypothesis distinct.2 ?_)
        rw [List.any_cons, decide_eq_false hit, Bool.false_or] at known
        exact known

theorem flatMap_grouped (key : Sample → String) (labels : Sample → Labels) (item : Sample → Item)
    (samples : List Sample) :
    ((grouped key labels item samples).flatMap (·.items)).Perm (samples.map item) := by
  induction samples using List.reverseRecOn with
  | nil => exact .rfl
  | append_singleton before sample hypothesis =>
    rw [grouped, List.foldl_append, List.map_append]
    exact (flatMap_addToGroup (groupsOf_grouped key labels item before).distinct _ _ _).trans
      (hypothesis.append_right _)

/-- A group with its items replaced one by one. -/
def Group.mapItems (write : Item → Other) (group : Group Item) : Group Other where
  key := group.key
  labels := group.labels
  items := group.items.map write

theorem addToGroup_mapItems (write : Item → Other) (groups : List (Group Item)) (newKey : String)
    (newLabels : Labels) (new : Item) :
    addToGroup (groups.map (·.mapItems write)) newKey newLabels (write new) =
      (addToGroup groups newKey newLabels new).map (·.mapItems write) := by
  have known : ((groups.map (·.mapItems write)).any fun group => decide (group.key = newKey)) =
      groups.any fun group => decide (group.key = newKey) := by
    rw [List.any_map]
    rfl
  rw [addToGroup, addToGroup, known]
  split
  · rw [List.map_map, List.map_map]
    refine List.map_congr_left fun group _ => ?_
    show (if group.key = newKey then _ else _) = Group.mapItems write (if group.key = newKey then _ else _)
    split
    · simp [Group.mapItems]
    · rfl
  · simp [Group.mapItems]

theorem grouped_mapItems (write : Item → Other) (samples : List Sample) :
    grouped key labels (fun sample => write (item sample)) samples =
      (grouped key labels item samples).map (·.mapItems write) := by
  induction samples using List.reverseRecOn with
  | nil => rfl
  | append_singleton before sample hypothesis =>
    rw [grouped, grouped, List.foldl_append, List.foldl_append]
    exact (congrArg (addToGroup · _ _ _) hypothesis).trans (addToGroup_mapItems write _ _ _ _)

end Groups

/-! ### Keys -/

def cut (entries : List String) : List (List Char) :=
  entries.flatMap fun entry => entry.toList.splitOn ','

theorem splitOn_intercalate_append (entries : List (List Char)) (nonempty : entries ≠ []) :
    ([','].intercalate entries).splitOn ',' = entries.flatMap fun entry => entry.splitOn ',' := by
  induction entries with
  | nil => exact absurd rfl nonempty
  | cons entry rest hypothesis =>
    cases rest with
    | nil => simp
    | cons second rest =>
      rw [List.intercalate_cons_cons, List.flatMap_cons, ← hypothesis (List.cons_ne_nil _ _),
        List.append_assoc]
      exact List.splitOn_append_cons_self _ _

theorem splitOn_inj {text other : List Char} : text.splitOn ',' = other.splitOn ',' ↔ text = other := by
  refine ⟨fun same => ?_, fun same => by rw [same]⟩
  have joined := congrArg [','].intercalate same
  rw [List.intercalate_splitOn, List.intercalate_splitOn] at joined
  exact joined

theorem intercalate_eq_iff {entries others : List String} (nonempty : entries ≠ [])
    (othersNonempty : others ≠ []) :
    String.intercalate "," entries = String.intercalate "," others ↔ cut entries = cut others := by
  have cutEq (texts : List String) (some : texts ≠ []) :
      (String.intercalate "," texts).toList.splitOn ',' = cut texts := by
    rw [String.toList_intercalate, cut]
    exact (splitOn_intercalate_append _ (by simpa using some)).trans (List.flatMap_map _ _ _)
  rw [← cutEq entries nonempty, ← cutEq others othersNonempty, splitOn_inj, String.toList_inj]

theorem flatMap_comma_eq_iff (entries others : List String) :
    (entries.flatMap fun entry => entry.toList ++ [',']) =
      (others.flatMap fun entry => entry.toList ++ [',']) ↔ cut entries = cut others := by
  have cutEq (texts : List String) :
      (texts.flatMap fun entry => entry.toList ++ [',']).splitOn ',' = cut texts ++ [[]] := by
    induction texts with
    | nil => exact List.splitOn_nil ','
    | cons entry rest hypothesis =>
      rw [List.flatMap_cons, List.append_assoc, List.singleton_append, List.splitOn_append_cons_self,
        hypothesis, cut, cut, List.flatMap_cons, List.append_assoc]
  rw [← splitOn_inj, cutEq, cutEq, List.append_left_inj]

/-- The entries of the labels of a list, in the order of their texts. -/
def entriesBy (labels : Labels) (byLabels : List String) : List String :=
  (byLabels.map fun name => name ++ "=" ++ labels.getD name "").mergeSort fun key other => key ≤ other

/-- The entries of all labels, in the order of their names. -/
def entries (labels : Labels) : List String :=
  labels.toList.map fun entry => entry.1 ++ "=" ++ entry.2

theorem groupKey_key_eq_iff (labels others : Labels) (byLabels : List String) :
    (groupKey labels byLabels).1 = (groupKey others byLabels).1 ↔
      cut (entriesBy labels byLabels) = cut (entriesBy others byLabels) := by
  rcases eq_or_ne byLabels [] with rfl | nonempty
  · exact iff_of_true rfl rfl
  · have sorted (labels : Labels) : entriesBy labels byLabels ≠ [] := by
      rw [entriesBy, ← List.length_pos_iff, List.length_mergeSort, List.length_map]
      exact List.length_pos_iff.mpr nonempty
    exact intercalate_eq_iff (sorted labels) (sorted others)

theorem stableKey_toList (labels : Labels) :
    (stableKey labels).toList = (entries labels).flatMap fun entry => entry.toList ++ [','] := by
  have loop (built : String) (rest : List (String × String)) :
      (rest.foldl (fun built entry => built ++ entry.1 ++ "=" ++ entry.2 ++ ",") built).toList =
        built.toList ++ (rest.map fun entry => entry.1 ++ "=" ++ entry.2).flatMap
          fun entry => entry.toList ++ [','] := by
    induction rest generalizing built with
    | nil => simp
    | cons entry rest hypothesis =>
      rw [List.foldl_cons, hypothesis, List.map_cons, List.flatMap_cons]
      simp
  exact loop "" labels.toList

theorem stableKey_eq_iff (labels others : Labels) :
    stableKey labels = stableKey others ↔ cut (entries labels) = cut (entries others) := by
  rw [← String.toList_inj, stableKey_toList, stableKey_toList, flatMap_comma_eq_iff]

theorem groupKey_labels (labels : Labels) (byLabels : List String) (name : String) :
    (groupKey labels byLabels).2[name]? =
      if name ∈ byLabels then some (labels.getD name "") else none := by
  rw [groupKey]
  induction byLabels using List.reverseRecOn with
  | nil => simp
  | append_singleton before last hypothesis =>
    rw [List.foldl_append, List.foldl_cons, List.foldl_nil, Std.ExtTreeMap.getElem?_insert]
    split
    case isTrue same =>
      have same : last = name := Std.LawfulEqCmp.eq_of_compare same
      simp [same]
    case isFalse different =>
      have different : name ≠ last := fun same => different (by rw [same]; exact Std.ReflCmp.compare_self)
      rw [hypothesis]
      simp [different]

/-! ### Aggregation -/

section Aggregations

/-- The groups of `aggregate`, with the samples and their places. -/
def placedGroups (vector : List (LabelSample Extended)) (byLabels : List String) :
    List (Group (LabelSample Extended × Nat)) :=
  grouped (fun place => (groupKey place.1.labels byLabels).1)
    (fun place => (groupKey place.1.labels byLabels).2) id vector.zipIdx

/-- `aggregate` groups by the labels of the list: two samples are in one group if they agree on them,
every sample is in one group, and what is put out for a group has their labels. -/
structure GroupedExactly (vector : List (LabelSample Extended)) (byLabels : List String) : Prop where
  together : ∀ first ∈ vector.zipIdx, ∀ second ∈ vector.zipIdx,
    (∃ group ∈ placedGroups vector byLabels, first ∈ group.items ∧ second ∈ group.items) ↔
      ∀ name ∈ byLabels, first.1.labels.getD name "" = second.1.labels.getD name ""
  values : ((placedGroups vector byLabels).flatMap (·.items)).Perm vector.zipIdx
  output : ∀ operation, aggregate vector byLabels operation = (placedGroups vector byLabels).map fun group =>
    { labels := group.labels, value := aggregateValues operation (group.items.map (·.1.value)) }
  sums : ((aggregate vector byLabels .sum).map (·.value)).sum = (vector.map (·.value)).sum
  counts : ((aggregate vector byLabels .count).map (·.value)).sum = ((vector.length : ℚ) : Extended)
  labels : ∀ group ∈ placedGroups vector byLabels, ∀ place ∈ group.items, ∀ name,
    group.labels[name]? = if name ∈ byLabels then some (place.1.labels.getD name "") else none

/-- Two label sets that do not agree on the labels of the list, but whose entries are cut alike. -/
def Confusable (byLabels : List String) (labels others : Labels) : Prop :=
  (∃ name ∈ byLabels, labels.getD name "" ≠ others.getD name "") ∧
    cut (entriesBy labels byLabels) = cut (entriesBy others byLabels)

variable (vector : List (LabelSample Extended)) (byLabels : List String)

theorem aggregate_eq_placedGroups (operation : Aggregation) :
    aggregate vector byLabels operation = (placedGroups vector byLabels).map fun group =>
      { labels := group.labels, value := aggregateValues operation (group.items.map (·.1.value)) } := by
  have samples : vector = vector.zipIdx.map (·.1) := (List.zipIdx_map_fst 0 vector).symm
  have made : vector.foldl (fun groups sample =>
        addToGroup groups (groupKey sample.labels byLabels).1 (groupKey sample.labels byLabels).2
          sample.value) [] =
      (placedGroups vector byLabels).map (·.mapItems (·.1.value)) := by
    rw [placedGroups, ← grouped_mapItems]
    conv_lhs => rw [samples, List.foldl_map]
    rfl
  rw [aggregate, made, List.map_map]
  rfl

theorem placedGroups_perm : ((placedGroups vector byLabels).flatMap (·.items)).Perm vector.zipIdx := by
  have all := flatMap_grouped (fun place : LabelSample Extended × Nat => (groupKey place.1.labels byLabels).1)
    (fun place => (groupKey place.1.labels byLabels).2) id vector.zipIdx
  rwa [List.map_id] at all

theorem sum_aggregate :
    ((aggregate vector byLabels .sum).map (·.value)).sum = (vector.map (·.value)).sum := by
  have values := ((placedGroups_perm vector byLabels).map (·.1.value)).sum_eq
  have samples : vector.zipIdx.map (·.1.value) = vector.map (·.value) := by
    conv_rhs => rw [← List.zipIdx_map_fst 0 vector, List.map_map]
    rfl
  rw [samples, List.map_flatMap, List.flatMap_def, List.sum_flatten, List.map_map] at values
  rw [← values, aggregate_eq_placedGroups, List.map_map]
  refine congrArg List.sum (List.map_congr_left fun group _ => ?_)
  exact Extended.foldl_add _

theorem count_aggregate :
    ((aggregate vector byLabels .count).map (·.value)).sum = ((vector.length : ℚ) : Extended) := by
  have lengths := (placedGroups_perm vector byLabels).length_eq
  rw [List.length_flatMap, List.length_zipIdx] at lengths
  have cast (numbers : List Nat) :
      (numbers.map fun number : Nat => ((number : ℚ) : Extended)).sum = ((numbers.sum : ℚ) : Extended) := by
    induction numbers with
    | nil => rfl
    | cons number rest hypothesis =>
      rw [List.map_cons, List.sum_cons, List.sum_cons, hypothesis, Nat.cast_add]
      rfl
  rw [← lengths, ← cast, aggregate_eq_placedGroups, List.map_map, List.map_map]
  refine congrArg List.sum (List.map_congr_left fun group _ => ?_)
  show (((group.items.map (·.1.value)).length : ℚ) : Extended) = _
  rw [List.length_map]
  rfl

/-- Groups are exact exactly if no two samples of the vector can be confused. -/
theorem groupedExactly_iff : GroupedExactly vector byLabels ↔
    ∀ sample ∈ vector, ∀ other ∈ vector, ¬ Confusable byLabels sample.labels other.labels := by
  have place (sample : LabelSample Extended) (member : sample ∈ vector) :
      ∃ index, (sample, index) ∈ vector.zipIdx := by
    obtain ⟨index, inside, rfl⟩ := List.mem_iff_getElem.mp member
    exact ⟨index, List.mem_zipIdx_iff_getElem?.mpr (List.getElem?_eq_getElem inside)⟩
  have sample (place : LabelSample Extended × Nat) (member : place ∈ vector.zipIdx) : place.1 ∈ vector :=
    List.fst_mem_of_mem_zipIdx member
  constructor
  · rintro exact sample member other present ⟨⟨name, listed, differ⟩, alike⟩
    obtain ⟨index, placed⟩ := place sample member
    obtain ⟨otherIndex, otherPlaced⟩ := place other present
    have one : ∃ group ∈ placedGroups vector byLabels,
        (sample, index) ∈ group.items ∧ (other, otherIndex) ∈ group.items := by
      refine (mem_group_iff placed otherPlaced).mpr ?_
      exact (groupKey_key_eq_iff sample.labels other.labels byLabels).mpr alike
    exact differ ((exact.together _ placed _ otherPlaced).mp one name listed)
  · intro sharp
    have agree (first second : LabelSample Extended × Nat) (firstMember : first ∈ vector.zipIdx)
        (secondMember : second ∈ vector.zipIdx)
        (same : (groupKey first.1.labels byLabels).1 = (groupKey second.1.labels byLabels).1) :
        ∀ name ∈ byLabels, first.1.labels.getD name "" = second.1.labels.getD name "" := by
      intro name listed
      by_contra differ
      exact sharp first.1 (sample first firstMember) second.1 (sample second secondMember)
        ⟨⟨name, listed, differ⟩, (groupKey_key_eq_iff _ _ _).mp same⟩
    refine ⟨fun first firstMember second secondMember => ?_, placedGroups_perm vector byLabels,
      aggregate_eq_placedGroups vector byLabels, sum_aggregate vector byLabels,
      count_aggregate vector byLabels, fun group groupMember place placeIn name => ?_⟩
    · refine (mem_group_iff firstMember secondMember).trans
        ⟨agree first second firstMember secondMember, fun same => ?_⟩
      rw [groupKey, groupKey]
      show String.intercalate _ (List.mergeSort _ _) = String.intercalate _ (List.mergeSort _ _)
      rw [List.map_congr_left fun name listed => by rw [same name listed]]
    · obtain ⟨own, ownMember, ownIn, ownLabels⟩ := exists_labels_of_group groupMember
      rw [ownLabels, groupKey_labels]
      split
      case isTrue listed =>
        have placeMember := (placedGroups_perm vector byLabels).mem_iff.mp
          (List.mem_flatMap.mpr ⟨group, groupMember, placeIn⟩)
        have same := (mem_group_iff ownMember placeMember).mp ⟨group, groupMember, ownIn, placeIn⟩
        rw [agree own place ownMember placeMember same name listed]
      case isFalse => rfl

end Aggregations

/-! ### Histograms -/

section Histograms

/-- A sample at its place, with the bound that its label `le` gives. -/
abbrev Bucket := (LabelSample Extended × Nat) × Extended

/-- The labels of a bucket other than `le`. -/
def Bucket.labels (bucket : Bucket) : Labels :=
  copyLabelsWithout bucket.1.1.labels "le"

/-- The samples that `histogram_quantile` reads. -/
def bucketsOf (vector : List (LabelSample Extended)) : List Bucket :=
  vector.zipIdx.filterMap fun place =>
    ((place.1.labels["le"]?).bind parseLEBound).map fun le => (place, le)

/-- The groups of `histogram_quantile`, with the samples and their places. -/
def placedHistograms (vector : List (LabelSample Extended)) : List (Group Bucket) :=
  grouped (fun bucket => stableKey bucket.labels) Bucket.labels id (bucketsOf vector)

/-- `histogram_quantile` merges buckets by their labels other than `le`. -/
structure MergedExactly (vector : List (LabelSample Extended)) : Prop where
  together : ∀ first ∈ bucketsOf vector, ∀ second ∈ bucketsOf vector,
    (∃ group ∈ placedHistograms vector, first ∈ group.items ∧ second ∈ group.items) ↔
      first.labels = second.labels
  values : ((placedHistograms vector).flatMap (·.items)).Perm (bucketsOf vector)
  points : histograms vector = (placedHistograms vector).map
    (·.mapItems fun bucket => { le := bucket.2, count := bucket.1.1.value })
  labels : ∀ group ∈ placedHistograms vector, ∀ bucket ∈ group.items, group.labels = bucket.labels

/-- Two buckets of different histograms whose entries are cut alike. -/
def ConfusableBuckets (first second : Bucket) : Prop :=
  first.labels ≠ second.labels ∧ cut (entries first.labels) = cut (entries second.labels)

variable (vector : List (LabelSample Extended))

theorem histograms_eq_placedHistograms :
    histograms vector = (placedHistograms vector).map
      (·.mapItems fun bucket => { le := bucket.2, count := bucket.1.1.value }) := by
  have loop (places : List (LabelSample Extended × Nat)) (groups : List (Group (HistPoint Extended))) :
      (places.map (·.1)).foldl (fun groups sample =>
          match (sample.labels["le"]?).bind (@parseLEBound Extended _) with
          | none => groups
          | some le =>
            let labels := copyLabelsWithout sample.labels "le"
            addToGroup groups (stableKey labels) labels { le, count := sample.value }) groups =
        (places.filterMap fun place =>
          ((place.1.labels["le"]?).bind parseLEBound).map fun le => ((place, le) : Bucket)).foldl
            (fun groups (bucket : Bucket) => addToGroup groups (stableKey bucket.labels) bucket.labels
              { le := bucket.2, count := bucket.1.1.value }) groups := by
    induction places generalizing groups with
    | nil => rfl
    | cons place rest hypothesis =>
      rw [List.map_cons, List.foldl_cons, List.filterMap_cons]
      cases read : (place.1.labels["le"]?).bind (@parseLEBound Extended _) with
      | none => exact hypothesis groups
      | some le => exact hypothesis _
  rw [histograms, placedHistograms, ← grouped_mapItems]
  have whole := loop vector.zipIdx []
  rw [List.zipIdx_map_fst 0 vector] at whole
  refine Eq.trans ?_ whole
  refine congrArg (fun add => List.foldl add [] vector) (funext fun groups => funext fun sample => ?_)
  cases (sample.labels["le"]?).bind (@parseLEBound Extended _) <;> rfl

/-- Buckets are merged exactly if no two of them can be confused. -/
theorem mergedExactly_iff : MergedExactly vector ↔
    ∀ first ∈ bucketsOf vector, ∀ second ∈ bucketsOf vector, ¬ ConfusableBuckets first second := by
  constructor
  · rintro exact first firstMember second secondMember ⟨differ, alike⟩
    refine differ ((exact.together first firstMember second secondMember).mp ?_)
    exact (mem_group_iff firstMember secondMember).mpr ((stableKey_eq_iff _ _).mpr alike)
  · intro sharp
    have agree (first second : Bucket) (firstMember : first ∈ bucketsOf vector)
        (secondMember : second ∈ bucketsOf vector)
        (same : stableKey first.labels = stableKey second.labels) : first.labels = second.labels := by
      by_contra differ
      exact sharp first firstMember second secondMember ⟨differ, (stableKey_eq_iff _ _).mp same⟩
    have all : ((placedHistograms vector).flatMap (·.items)).Perm (bucketsOf vector) := by
      have items := flatMap_grouped (fun bucket : Bucket => stableKey bucket.labels) Bucket.labels id
        (bucketsOf vector)
      rwa [List.map_id] at items
    refine ⟨fun first firstMember second secondMember => ?_, all, histograms_eq_placedHistograms vector,
      fun group groupMember bucket bucketIn => ?_⟩
    · exact (mem_group_iff firstMember secondMember).trans
        ⟨agree first second firstMember secondMember, fun same => by rw [same]⟩
    · obtain ⟨own, ownMember, ownIn, ownLabels⟩ := exists_labels_of_group groupMember
      have bucketMember := all.mem_iff.mp (List.mem_flatMap.mpr ⟨group, groupMember, bucketIn⟩)
      have same := (mem_group_iff ownMember bucketMember).mp ⟨group, groupMember, ownIn, bucketIn⟩
      rw [ownLabels, agree own bucket ownMember bucketMember same]

end Histograms

/-- Groups and histograms are exact unless two samples that should be apart are cut alike. -/
theorem grouping_exact_iff (vector : List (LabelSample Extended)) (byLabels : List String) :
    GroupedExactly vector byLabels ∧ MergedExactly vector ↔
      (∀ sample ∈ vector, ∀ other ∈ vector, ¬ Confusable byLabels sample.labels other.labels) ∧
        ∀ first ∈ bucketsOf vector, ∀ second ∈ bucketsOf vector, ¬ ConfusableBuckets first second :=
  and_congr (groupedExactly_iff vector byLabels) (mergedExactly_iff vector)

/-! ### Names of queues with commas -/

section Instances

def queues (dest source : String) : Labels :=
  ((∅ : Labels).insert "dest_queue" dest).insert "source_queue" source

def commaVector : List (LabelSample Extended) := [
  { labels := queues "a,source_queue=b" "c", value := .finite 1 },
  { labels := queues "a" "b,source_queue=c", value := .finite 2 }]

theorem groupKey_queues {dest source : String}
    (ordered : decide ("dest_queue=" ++ dest ≤ "source_queue=" ++ source) = true)
    (destRead : (queues dest source).getD "dest_queue" "" = dest)
    (sourceRead : (queues dest source).getD "source_queue" "" = source) :
    groupKey (queues dest source) ["dest_queue", "source_queue"] =
      ("dest_queue=" ++ dest ++ "," ++ ("source_queue=" ++ source), queues dest source) := by
  rw [groupKey, List.map_cons, List.map_cons, List.map_nil, destRead, sourceRead,
    List.mergeSort_of_pairwise (by simpa using ordered)]
  rfl

/-- The queues of two pipelines read alike, so `sum by (dest_queue, source_queue)` makes one group of
them and puts out the queues of the first. -/
theorem comma_in_queue_name_confuses :
    aggregate commaVector ["dest_queue", "source_queue"] .sum =
        [{ labels := queues "a,source_queue=b" "c", value := .finite 3 }] ∧
      ¬ (GroupedExactly commaVector ["dest_queue", "source_queue"] ∧ MergedExactly commaVector) := by
  have first : groupKey (queues "a,source_queue=b" "c") ["dest_queue", "source_queue"] =
      ("dest_queue=a,source_queue=b,source_queue=c", queues "a,source_queue=b" "c") :=
    groupKey_queues (by decide) (by decide) (by decide)
  have second : groupKey (queues "a" "b,source_queue=c") ["dest_queue", "source_queue"] =
      ("dest_queue=a,source_queue=b,source_queue=c", queues "a" "b,source_queue=c") :=
    groupKey_queues (by decide) (by decide) (by decide)
  refine ⟨?_, fun exact => ?_⟩
  · rw [aggregate, commaVector, List.foldl_cons, List.foldl_cons, List.foldl_nil, first, second]
    decide +kernel
  · refine ((groupedExactly_iff _ _).mp exact.1) _ List.mem_cons_self _
      (List.mem_cons_of_mem _ List.mem_cons_self) ⟨⟨"source_queue", by simp, by decide⟩, ?_⟩
    rw [← groupKey_key_eq_iff, first, second]

end Instances

end Eval

end Slo

end MqConnector
