/-
This file asks whether the draft of the studio stays well formed.

Adding, removing and patching a stage keeps distinct ids and increasing orders, and the state says
`building` only without edits, for the dirty counter is zero only then. Two operations break this. An
id that is listed twice puts its stage twice, and a stage that is not listed may be numbered before
the last of those that are. And clearing an error says `building` whatever has been edited.
-/

import MqConnector.Studio

namespace MqConnector

namespace Studio

variable {Json : Type}

/-! ### What is promised -/

/-- Stages with distinct ids and with orders that increase. -/
structure Tidy (stages : List Stage) : Prop where
  ids : (stages.map Stage.id).Nodup
  orders : stages.Pairwise fun first second => first.stageOrder < second.stageOrder

/-- A store whose baseline is this one, with a draft that is in order and equals it when building. -/
structure WellFormed (baseline : Snapshot Json) (s : Data Json) : Prop where
  kept : s.baseline = some baseline
  draft : ∃ draft, s.draft = some draft ∧ Tidy draft.stages
  building : s.state = .building → s.draft = some baseline

/-- A stage but for its place. -/
def Stage.content (st : Stage) : Stage :=
  { st with stageOrder := 0 }

def Data.stages (s : Data Json) : List Stage :=
  (s.draft.map Snapshot.stages).getD []

/-- Reordering neither loses nor duplicates a stage. -/
def KeepsStages (s : Data Json) : Operation Json → Prop
  | .reorderStages ids => ((s.reorderStages ids).stages.map Stage.content).Perm (s.stages.map Stage.content)
  | _ => True

/-- The id of a new stage is fresh, and a patch changes neither id nor order. -/
def Admissible (s : Data Json) : Operation Json → Prop
  | .addStage _ newId => newId ∉ s.stages.map Stage.id
  | .patchStage stageId patch => ∀ st ∈ s.stages, st.id = stageId →
      (patch.apply st).id = st.id ∧ (patch.apply st).stageOrder = st.stageOrder
  | _ => True

def known (stages : List Stage) (ids : List String) : List String :=
  ids.filter (· ∈ stages.map Stage.id)

/-- Where an operation keeps a draft in order: the order of a new stage is not rounded back; no stage is listed twice,
and if one is left out, the stages that are listed come before every unknown id or come first already; and an error is
cleared without edits. -/
def Orderly (s : Data Json) : Operation Json → Prop
  | .addStage _ _ => ∀ st ∈ s.stages, st.stageOrder < nextOrder s.stages
  | .reorderStages ids => (known s.stages ids).Nodup ∧
      ((known s.stages ids).length = s.stages.length ∨ known s.stages ids <+: ids ∨
        known s.stages ids <+: s.stages.map Stage.id)
  | .clearError => s.draft = s.baseline
  | _ => True

/-- Something holds of every operation of a run, in the state it is called in. -/
def Along (holds : Data Json → Operation Json → Prop) : Data Json → List (Operation Json) → Prop
  | _, [] => True
  | s, operation :: rest => holds s operation ∧ Along holds (operation.run s) rest

/-- Every state of a run is well formed, and no reordering loses or duplicates a stage. -/
def StaysWellFormed (baseline : Snapshot Json) (s : Data Json) (operations : List (Operation Json)) : Prop :=
  WellFormed baseline s ∧
    Along (fun s operation => WellFormed baseline (operation.run s) ∧ KeepsStages s operation) s operations

/-! ### Numbered stages -/

section Numbers

theorem map_id_renumber (i : Nat) (stages : List Stage) :
    (renumber i stages).map Stage.id = stages.map Stage.id := by
  induction stages generalizing i with
  | nil => rfl
  | cons st rest hypothesis => rw [renumber, List.map_cons, List.map_cons, hypothesis]

theorem lt_of_mem_renumber {i : Nat} {stages : List Stage} {st : Stage} (member : st ∈ renumber i stages) :
    (i : ℚ) < st.stageOrder := by
  induction stages generalizing i with
  | nil => cases member
  | cons first rest hypothesis =>
    rcases List.mem_cons.mp member with rfl | later
    · exact Nat.cast_lt.mpr (Nat.lt_succ_self i)
    · exact lt_trans (Nat.cast_lt.mpr (Nat.lt_succ_self i)) (hypothesis later)

theorem pairwise_renumber (i : Nat) (stages : List Stage) :
    (renumber i stages).Pairwise fun first second => first.stageOrder < second.stageOrder := by
  induction stages generalizing i with
  | nil => exact .nil
  | cons st rest hypothesis =>
    exact List.pairwise_cons.mpr ⟨fun other member => lt_of_mem_renumber member, hypothesis (i + 1)⟩

theorem map_content_renumber (i : Nat) (stages : List Stage) :
    (renumber i stages).map Stage.content = stages.map Stage.content := by
  induction stages generalizing i with
  | nil => rfl
  | cons st rest hypothesis =>
    rw [renumber, List.map_cons, List.map_cons, hypothesis]
    rfl

end Numbers

/-! ### Stages in the places of their ids -/

section Places

variable {stages : List Stage} {ids : List String}

theorem byId_eq_some {id : String} {st : Stage} (found : byId stages id = some st) :
    st ∈ stages ∧ st.id = id := by
  rw [byId] at found
  have same := List.find?_some found
  exact ⟨List.mem_reverse.mp (List.mem_of_find?_eq_some found), of_decide_eq_true same⟩

theorem byId_eq_none {id : String} : byId stages id = none ↔ id ∉ stages.map Stage.id := by
  simp only [byId, List.find?_eq_none, List.mem_reverse, decide_eq_true_eq, List.mem_map, not_exists, not_and]

theorem byId_of_mem (distinct : (stages.map Stage.id).Nodup) {st : Stage} (member : st ∈ stages) :
    byId stages st.id = some st := by
  cases found : byId stages st.id with
  | none => exact absurd (List.mem_map_of_mem member) (byId_eq_none.mp found)
  | some other =>
    obtain ⟨among, same⟩ := byId_eq_some found
    rw [List.inj_on_of_nodup_map distinct among member same]

theorem placed_unknown {id : String} (found : byId stages id = none) (i : Nat) :
    placed stages i (id :: ids) = placed stages (i + 1) ids := by
  rw [placed, found]

theorem placed_listed {id : String} {st : Stage} (found : byId stages id = some st) (i : Nat) :
    placed stages i (id :: ids) = { st with stageOrder := (i + 1 : Nat) } :: placed stages (i + 1) ids := by
  rw [placed, found]

theorem known_unknown {id : String} (found : byId stages id = none) : known stages (id :: ids) = known stages ids :=
  List.filter_cons_of_neg fun member => byId_eq_none.mp found (of_decide_eq_true member)

theorem known_listed {id : String} {st : Stage} (found : byId stages id = some st) :
    known stages (id :: ids) = id :: known stages ids := by
  obtain ⟨among, rfl⟩ := byId_eq_some found
  exact List.filter_cons_of_pos (decide_eq_true (List.mem_map_of_mem among))

theorem map_id_placed (i : Nat) : (placed stages i ids).map Stage.id = known stages ids := by
  induction ids generalizing i with
  | nil => rfl
  | cons id rest hypothesis =>
    cases found : byId stages id with
    | none =>
      rw [placed_unknown found, known_unknown found]
      exact hypothesis (i + 1)
    | some st =>
      obtain ⟨-, rfl⟩ := byId_eq_some found
      rw [placed_listed found, known_listed found, List.map_cons, hypothesis]

theorem exists_place {i : Nat} {st : Stage} (member : st ∈ placed stages i ids) :
    ∃ place : Nat, st.stageOrder = place ∧ i < place := by
  induction ids generalizing i with
  | nil => cases member
  | cons id rest hypothesis =>
    have later (there : st ∈ placed stages (i + 1) rest) : ∃ place : Nat, st.stageOrder = place ∧ i < place := by
      obtain ⟨place, same, above⟩ := hypothesis there
      exact ⟨place, same, Nat.lt_of_succ_lt above⟩
    cases found : byId stages id with
    | none =>
      rw [placed_unknown found] at member
      exact later member
    | some first =>
      rw [placed_listed found] at member
      rcases List.mem_cons.mp member with rfl | there
      · exact ⟨i + 1, rfl, Nat.lt_succ_self i⟩
      · exact later there

theorem pairwise_placed (i : Nat) :
    (placed stages i ids).Pairwise fun first second => first.stageOrder < second.stageOrder := by
  induction ids generalizing i with
  | nil => exact .nil
  | cons id rest hypothesis =>
    cases found : byId stages id with
    | none =>
      rw [placed_unknown found]
      exact hypothesis (i + 1)
    | some first =>
      rw [placed_listed found]
      refine List.pairwise_cons.mpr ⟨fun other member => ?_, hypothesis (i + 1)⟩
      obtain ⟨place, same, above⟩ := exists_place member
      rw [same]
      exact Nat.cast_lt.mpr above

theorem exists_late {i : Nat} (some : known stages ids ≠ []) :
    ∃ st ∈ placed stages i ids, ((i + (known stages ids).length : Nat) : ℚ) ≤ st.stageOrder := by
  induction ids generalizing i with
  | nil => exact absurd rfl some
  | cons id rest hypothesis =>
    cases found : byId stages id with
    | none =>
      rw [placed_unknown found]
      rw [known_unknown found] at some ⊢
      obtain ⟨st, member, late⟩ := @hypothesis (i + 1) some
      refine ⟨st, member, le_trans (Nat.cast_le.mpr ?_) late⟩
      exact Nat.add_le_add_right (Nat.le_succ i) _
    | some first =>
      rw [placed_listed found, known_listed found, List.length_cons]
      by_cases more : known stages rest = []
      · refine ⟨_, List.mem_cons_self, Nat.cast_le.mpr ?_⟩
        rw [more]
        exact Nat.le_refl _
      · obtain ⟨st, member, late⟩ := @hypothesis (i + 1) more
        refine ⟨st, List.mem_cons_of_mem _ member, le_trans (Nat.cast_le.mpr ?_) late⟩
        omega

theorem places_le_iff (i : Nat) :
    (∀ st ∈ placed stages i ids, st.stageOrder ≤ ((i + (known stages ids).length : Nat) : ℚ)) ↔
      known stages ids <+: ids := by
  induction ids generalizing i with
  | nil => exact iff_of_true (List.forall_mem_nil _) List.nil_prefix
  | cons id rest hypothesis =>
    cases found : byId stages id with
    | none =>
      rw [placed_unknown found, known_unknown found]
      constructor
      · intro early
        by_cases none : known stages rest = []
        · rw [none]
          exact List.nil_prefix
        · obtain ⟨st, member, late⟩ := @exists_late stages rest (i + 1) none
          have below : ((i + 1 + (known stages rest).length : Nat) : ℚ) ≤ ((i + (known stages rest).length : Nat) : ℚ) :=
            late.trans (early st member)
          have counts := Nat.cast_le.mp below
          omega
      · intro before st member
        have nothing : known stages rest = [] := by
          cases listed : known stages rest with
          | nil => rfl
          | cons first more =>
            rw [listed] at before
            obtain rfl := (List.cons_prefix_cons.mp before).1
            have member : first ∈ known stages rest := by
              rw [listed]
              exact List.mem_cons_self
            exact absurd (of_decide_eq_true (List.mem_filter.mp member).2) (byId_eq_none.mp found)
        have empty := congrArg List.length (@map_id_placed stages rest (i + 1))
        rw [nothing, List.length_map] at empty
        rw [List.eq_nil_of_length_eq_zero empty] at member
        cases member
    | some first =>
      have same : i + ((known stages rest).length + 1) = i + 1 + (known stages rest).length := by omega
      rw [placed_listed found, known_listed found, List.cons_prefix_cons, List.length_cons, same,
        ← hypothesis (i + 1)]
      constructor
      · exact fun early => ⟨rfl, fun st member => early st (List.mem_cons_of_mem _ member)⟩
      · rintro ⟨-, early⟩ st member
        rcases List.mem_cons.mp member with rfl | later
        · exact Nat.cast_le.mpr (Nat.le_add_right _ _)
        · exact early st later

end Places

/-! ### Reordering -/

section Reordering

variable {stages : List Stage} {ids : List String}

theorem length_placed (i : Nat) : (placed stages i ids).length = (known stages ids).length := by
  rw [← map_id_placed i, List.length_map]

theorem reordered_of_all (all : (known stages ids).length = stages.length) :
    reordered stages ids = placed stages 0 ids := by
  rw [reordered, length_placed, if_neg (not_not_intro all)]

theorem reordered_of_missing (missing : (known stages ids).length ≠ stages.length) : reordered stages ids =
    placed stages 0 ids ++
      renumber (known stages ids).length (stages.filter fun st => st.id ∉ known stages ids) := by
  rw [reordered, length_placed, if_pos missing, map_id_placed]

theorem map_id_reordered (missing : (known stages ids).length ≠ stages.length) :
    (reordered stages ids).map Stage.id = known stages ids ++ (stages.map Stage.id).filter (· ∉ known stages ids) := by
  rw [reordered_of_missing missing, List.map_append, map_id_placed, map_id_renumber, List.filter_map]
  rfl

theorem map_id_reordered_of_first (distinct : (stages.map Stage.id).Nodup)
    (first : known stages ids <+: stages.map Stage.id) : (reordered stages ids).map Stage.id = stages.map Stage.id := by
  by_cases all : (known stages ids).length = stages.length
  · rw [reordered_of_all all, map_id_placed]
    exact first.eq_of_length (by rw [all, List.length_map])
  · obtain ⟨rest, whole⟩ := first
    rw [map_id_reordered all, ← whole]
    rw [← whole] at distinct
    have apart := (List.nodup_append.mp distinct).2.2
    have gone : (known stages ids).filter (· ∉ known stages ids) = [] :=
      List.filter_eq_nil_iff.mpr fun id member => by simpa using member
    have stays : rest.filter (· ∉ known stages ids) = rest :=
      List.filter_eq_self.mpr fun id member => decide_eq_true fun listed => apart id listed id member rfl
    rw [List.filter_append, gone, stays, List.nil_append]

theorem perm_ids_reordered (distinct : (stages.map Stage.id).Nodup) (once : (known stages ids).Nodup) :
    ((reordered stages ids).map Stage.id).Perm (stages.map Stage.id) := by
  have among : known stages ids ⊆ stages.map Stage.id := fun id member => of_decide_eq_true (List.mem_filter.mp member).2
  by_cases all : (known stages ids).length = stages.length
  · rw [reordered_of_all all, map_id_placed]
    refine (List.subperm_of_subset once among).perm_of_length_le ?_
    rw [List.length_map, all]
  · rw [map_id_reordered all, List.perm_ext_iff_of_nodup ?_ distinct]
    · intro id
      rw [List.mem_append, List.mem_filter, decide_eq_true_eq]
      constructor
      · rintro (listed | ⟨member, -⟩)
        · exact among listed
        · exact member
      · intro member
        by_cases listed : id ∈ known stages ids
        · exact .inl listed
        · exact .inr ⟨member, listed⟩
    · refine List.nodup_append.mpr ⟨once, distinct.filter _, ?_⟩
      rintro id listed other member rfl
      exact of_decide_eq_true (List.mem_filter.mp member).2 listed

theorem contents_reordered (distinct : (stages.map Stage.id).Nodup) :
    ((reordered stages ids).map Stage.content).map some =
      ((reordered stages ids).map Stage.id).map fun id => (byId stages id).map Stage.content := by
  have listed (i : Nat) (ids : List String) : ((placed stages i ids).map Stage.content).map some =
      ((placed stages i ids).map Stage.id).map fun id => (byId stages id).map Stage.content := by
    induction ids generalizing i with
    | nil => rfl
    | cons id rest hypothesis =>
      cases found : byId stages id with
      | none =>
        rw [placed_unknown found]
        exact hypothesis (i + 1)
      | some st =>
        obtain ⟨-, rfl⟩ := byId_eq_some found
        rw [placed_listed found, List.map_cons, List.map_cons, List.map_cons, List.map_cons, hypothesis, found]
        rfl
  by_cases all : (known stages ids).length = stages.length
  · rw [reordered_of_all all]
    exact listed 0 ids
  · rw [reordered_of_missing all, List.map_append, List.map_append, List.map_append, List.map_append, listed,
      map_content_renumber, map_id_renumber]
    refine congrArg (_ ++ ·) ?_
    rw [List.map_map, List.map_map]
    refine List.map_congr_left fun st member => ?_
    show some st.content = (byId stages st.id).map Stage.content
    rw [byId_of_mem distinct (List.mem_of_mem_filter member)]
    rfl

theorem perm_reordered (distinct : (stages.map Stage.id).Nodup) (once : (known stages ids).Nodup) :
    ((reordered stages ids).map Stage.content).Perm (stages.map Stage.content) := by
  have whole : (stages.map Stage.content).map some =
      (stages.map Stage.id).map fun id => (byId stages id).map Stage.content := by
    rw [List.map_map, List.map_map]
    refine List.map_congr_left fun st member => ?_
    show some st.content = (byId stages st.id).map Stage.content
    rw [byId_of_mem distinct member]
    rfl
  rw [← List.map_perm_map_iff (Option.some_injective _), contents_reordered distinct, whole]
  exact (perm_ids_reordered distinct once).map _

theorem tidy_reordered_iff (distinct : (stages.map Stage.id).Nodup)
    (differs : (reordered stages ids).map Stage.id ≠ stages.map Stage.id) : Tidy (reordered stages ids) ↔
      (known stages ids).Nodup ∧ ((known stages ids).length = stages.length ∨ known stages ids <+: ids ∨
        known stages ids <+: stages.map Stage.id) := by
  by_cases all : (known stages ids).length = stages.length
  · rw [reordered_of_all all]
    constructor
    · exact fun tidy => ⟨@map_id_placed stages ids 0 ▸ tidy.ids, .inl all⟩
    · exact fun orderly => ⟨(map_id_placed 0).symm ▸ orderly.1, pairwise_placed 0⟩
  · constructor
    · intro tidy
      have ids_ := tidy.ids
      have orders := tidy.orders
      rw [map_id_reordered all] at ids_
      rw [reordered_of_missing all, List.pairwise_append] at orders
      have once := (List.nodup_append.mp ids_).1
      refine ⟨once, .inr (.inl ((places_le_iff 0).mp fun st member => ?_))⟩
      -- a stage that is left out is numbered behind the count
      have fewer : (stages.filter fun st => st.id ∉ known stages ids) ≠ [] := by
        intro none
        have same := perm_ids_reordered distinct once
        rw [reordered_of_missing all, none, renumber, List.append_nil, map_id_placed] at same
        exact all (same.length_eq.trans (List.length_map _))
      obtain ⟨first, rest, missing⟩ := List.exists_cons_of_ne_nil fewer
      rw [missing] at orders
      have before := orders.2.2 st member _ List.mem_cons_self
      obtain ⟨place, same, -⟩ := exists_place member
      rw [same] at before ⊢
      have less := Nat.cast_lt.mp before
      exact Nat.cast_le.mpr (by omega)
    · rintro ⟨once, full | before | already⟩
      · exact absurd full all
      · constructor
        · exact ((perm_ids_reordered distinct once).nodup_iff).mpr distinct
        · rw [reordered_of_missing all, List.pairwise_append]
          refine ⟨pairwise_placed 0, pairwise_renumber _ _, fun st member other behind => ?_⟩
          have early := (places_le_iff 0).mpr before st member
          rw [Nat.zero_add] at early
          exact early.trans_lt (lt_of_mem_renumber behind)
      · exact absurd (map_id_reordered_of_first distinct already) differs

end Reordering

/-! ### One operation -/

/-- A well-formed store whose counter is zero only without edits. -/
structure Steady (baseline : Snapshot Json) (s : Data Json) : Prop extends WellFormed baseline s where
  counted : s.dirtyCount = 0 → s.draft = some baseline

section Operations

variable {baseline draft : Snapshot Json} {s after : Data Json} {operation : Operation Json}

theorem Data.stages_of_draft (has : s.draft = some draft) : s.stages = draft.stages := by
  rw [stages, has]
  rfl

theorem Steady.edit (steady : Steady baseline s) (tidy : Tidy draft.stages) (selected : Option String) :
    Steady baseline ({ s with draft := some draft, selectedNodeId := selected } : Data Json).markDirty where
  kept := steady.kept
  draft := ⟨draft, rfl, tidy⟩
  building same := by
    dsimp only [Data.markDirty] at same
    split at same
    · cases same
    · cases same
  counted zero := absurd zero (Nat.succ_ne_zero _)

theorem Steady.chrome (steady : Steady baseline s) (kept : after.baseline = s.baseline)
    (same : after.draft = s.draft)
    (count : after.dirtyCount = s.dirtyCount) (building : after.state = .building → s.draft = some baseline) :
    Steady baseline after where
  kept := kept.trans steady.kept
  draft := same ▸ steady.draft
  building now := same.trans (building now)
  counted zero := same.trans (steady.counted (count.symm.trans zero))

theorem Steady.editState (steady : Steady baseline s) (building : s.editState = .building) :
    s.draft = some baseline := by
  rw [Data.editState] at building
  split at building
  case isTrue => cases building
  case isFalse zero => exact steady.counted (Nat.eq_zero_of_not_pos zero)

theorem Tidy.append {stages : List Stage} {next : Stage} (tidy : Tidy stages)
    (fresh : next.id ∉ stages.map Stage.id)
    (above : ∀ st ∈ stages, st.stageOrder < next.stageOrder) : Tidy (stages ++ [next]) where
  ids := by
    rw [List.map_append, List.nodup_append]
    refine ⟨tidy.ids, List.nodup_singleton _, ?_⟩
    rintro id member other only rfl
    exact fresh (List.mem_singleton.mp only ▸ member)
  orders := by
    rw [List.pairwise_append]
    refine ⟨tidy.orders, List.pairwise_singleton _ _, fun st member other only => ?_⟩
    rw [List.mem_singleton.mp only]
    exact above st member

theorem Tidy.patch {stages : List Stage} {stageId : String} {patch : StagePatch} (tidy : Tidy stages)
    (keeps : ∀ st ∈ stages, st.id = stageId → (patch.apply st).id = st.id ∧ (patch.apply st).stageOrder = st.stageOrder) :
    Tidy (stages.map fun st => if st.id ≠ stageId then st else patch.apply st) := by
  have same : ∀ st ∈ stages, (if st.id ≠ stageId then st else patch.apply st).id = st.id ∧
      (if st.id ≠ stageId then st else patch.apply st).stageOrder = st.stageOrder := by
    intro st member
    split
    case isTrue => exact ⟨rfl, rfl⟩
    case isFalse here => exact keeps st member (not_not.mp here)
  constructor
  · have mapped : (stages.map fun st => if st.id ≠ stageId then st else patch.apply st).map Stage.id =
        stages.map Stage.id := by
      rw [List.map_map]
      exact List.map_congr_left fun st member => (same st member).1
    rw [mapped]
    exact tidy.ids
  · rw [List.pairwise_map]
    refine tidy.orders.imp_of_mem fun first second less => ?_
    rw [(same _ first).2, (same _ second).2]
    exact less

theorem steady_run (tidy : Tidy baseline.stages) (steady : Steady baseline s)
    (admissible : Admissible s operation)
    (orderly : Orderly s operation) : Steady baseline (operation.run s) ∧ KeepsStages s operation := by
  obtain ⟨draft, has, draftTidy⟩ := steady.draft
  have stages := Data.stages_of_draft has
  cases operation with
  | addStage stageType newId =>
    refine ⟨?_, trivial⟩
    rw [Admissible, stages] at admissible
    rw [Orderly, stages] at orderly
    rw [Operation.run, Data.addStage, has]
    exact steady.edit (draftTidy.append admissible orderly) s.selectedNodeId
  | removeStage stageId =>
    refine ⟨?_, trivial⟩
    rw [Operation.run, Data.removeStage, has]
    dsimp only
    split
    · exact steady
    · refine steady.edit ⟨?_, pairwise_renumber 0 _⟩ _
      rw [map_id_renumber]
      exact draftTidy.ids.sublist (List.filter_sublist.map Stage.id)
  | reorderStages ids =>
    rw [Orderly, stages] at orderly
    have permuted := perm_reordered draftTidy.ids orderly.1
    rw [Operation.run, KeepsStages, stages, Data.reorderStages, has]
    dsimp only
    split
    case isTrue => exact ⟨steady, stages ▸ .refl _⟩
    case isFalse differs =>
      exact ⟨steady.edit ((tidy_reordered_iff draftTidy.ids differs).mpr orderly) s.selectedNodeId, permuted⟩
  | patchStage stageId patch =>
    refine ⟨?_, trivial⟩
    rw [Admissible, stages] at admissible
    rw [Operation.run, Data.patchStage, has]
    dsimp only
    split
    · exact steady
    · exact steady.edit (draftTidy.patch admissible) s.selectedNodeId
  | resetDraft =>
    refine ⟨?_, trivial⟩
    rw [Operation.run, Data.resetDraft, steady.kept]
    exact ⟨⟨rfl, ⟨baseline, rfl, tidy⟩, fun _ => rfl⟩, fun _ => rfl⟩
  | setError msg => exact ⟨steady.chrome rfl rfl rfl (fun same => Chrome.noConfusion same), trivial⟩
  | clearError => exact ⟨steady.chrome rfl rfl rfl fun _ => orderly.trans steady.kept, trivial⟩
  | setComparison start stop diff => exact ⟨steady.chrome rfl rfl rfl (fun same => Chrome.noConfusion same), trivial⟩
  | clearComparison => exact ⟨steady.chrome rfl rfl rfl steady.editState, trivial⟩
  | setDryRun result => exact ⟨steady.chrome rfl rfl rfl (fun same => Chrome.noConfusion same), trivial⟩
  | clearDryRun => exact ⟨steady.chrome rfl rfl rfl steady.editState, trivial⟩
  | beginDryRun => exact ⟨steady.chrome rfl rfl rfl (fun same => Chrome.noConfusion same), trivial⟩
  | finishDryRun result => exact ⟨steady.chrome rfl rfl rfl (fun same => Chrome.noConfusion same), trivial⟩
  | failDryRun message => exact ⟨steady.chrome rfl rfl rfl steady.editState, trivial⟩
  | clearDockError => exact ⟨steady.chrome rfl rfl rfl steady.building, trivial⟩

theorem orderly_of_wellFormed (steady : Steady baseline s) (after : WellFormed baseline (operation.run s)) :
    Orderly s operation := by
  obtain ⟨draft, has, draftTidy⟩ := steady.draft
  have stages := Data.stages_of_draft has
  cases operation with
  | addStage stageType newId =>
    obtain ⟨edited, now, tidy⟩ := after.draft
    rw [Operation.run, Data.addStage, has] at now
    obtain rfl := Option.some.inj now
    rw [Orderly, stages]
    exact fun st member => (List.pairwise_append.mp tidy.orders).2.2 st member _ List.mem_cons_self
  | reorderStages ids =>
    rw [Orderly, stages]
    obtain ⟨edited, now, tidy⟩ := after.draft
    rw [Operation.run, Data.reorderStages, has] at now
    dsimp only at now
    split at now
    case isTrue same =>
      by_cases all : (known draft.stages ids).length = draft.stages.length
      · rw [reordered_of_all all, map_id_placed] at same
        exact ⟨same ▸ draftTidy.ids, .inl all⟩
      · rw [map_id_reordered all] at same
        have once := draftTidy.ids
        rw [← same] at once
        exact ⟨(List.nodup_append.mp once).1, .inr (.inr (same ▸ List.prefix_append _ _))⟩
    case isFalse differs =>
      obtain rfl := Option.some.inj now
      exact (tidy_reordered_iff draftTidy.ids differs).mp tidy
  | clearError => exact (after.building rfl).trans steady.kept.symm
  | _ => trivial

end Operations

/-! ### Runs -/

section Runs

variable {baseline : Snapshot Json} {s : Data Json}

/-- A steady draft stays well formed exactly under orderly operations. -/
theorem staysWellFormed_of_steady (tidy : Tidy baseline.stages) (operations : List (Operation Json))
    (steady : Steady baseline s) (admissible : Along Admissible s operations) :
    StaysWellFormed baseline s operations ↔ Along Orderly s operations := by
  induction operations generalizing s with
  | nil => exact iff_of_true ⟨steady.toWellFormed, trivial⟩ trivial
  | cons operation rest hypothesis =>
    obtain ⟨allowed, later⟩ := admissible
    constructor
    · rintro ⟨-, ⟨after, -⟩, further⟩
      have orderly := orderly_of_wellFormed steady after
      have next := (steady_run tidy steady allowed orderly).1
      exact ⟨orderly, (hypothesis next later).mp ⟨after, further⟩⟩
    · rintro ⟨orderly, further⟩
      obtain ⟨next, keeps⟩ := steady_run tidy steady allowed orderly
      obtain ⟨after, stays⟩ := (hypothesis next later).mpr further
      exact ⟨steady.toWellFormed, ⟨after, keeps⟩, stays⟩

theorem tidy_sortBy {stages : List Stage} (ids : (stages.map Stage.id).Nodup)
    (orders : (stages.map Stage.stageOrder).Nodup) :
    Tidy (sortBy Stage.stageOrder stages) := by
  have permuted := List.perm_insertionSort (fun first second : Stage => first.stageOrder ≤ second.stageOrder) stages
  constructor
  · exact (permuted.map Stage.id).nodup_iff.mpr ids
  · have apart : (sortBy Stage.stageOrder stages).Pairwise fun first second => first.stageOrder ≠ second.stageOrder :=
      List.pairwise_map.mp ((permuted.map Stage.stageOrder).nodup_iff.mpr orders)
    have sorted : (sortBy Stage.stageOrder stages).Pairwise fun first second => first.stageOrder ≤ second.stageOrder :=
      List.pairwise_insertionSort _ _
    exact (sorted.and apart).imp fun both => lt_of_le_of_ne both.1 both.2

/-- A draft that was loaded with distinct ids and orders stays well formed under a run of operations
exactly if each of them is orderly. -/
theorem staysWellFormed_iff (keys : Keys Json) (pipelineId : String) (answers : Answers Json)
    {pipeline : Json}
    {stages : List Stage} {transforms rules : List Json} (gotPipeline : answers.pipeline = .ok pipeline)
    (gotStages : answers.stages = .ok stages) (gotTransforms : answers.transforms = .ok transforms)
    (gotRules : answers.rules = .ok rules) (ids : (stages.map Stage.id).Nodup)
    (orders : (stages.map Stage.stageOrder).Nodup) (operations : List (Operation Json))
    (admissible : Along Admissible (hydrated keys pipelineId answers) operations) :
    ∃ baseline, (hydrated keys pipelineId answers).baseline = some baseline ∧
      (StaysWellFormed baseline (hydrated keys pipelineId answers) operations ↔
        Along Orderly (hydrated keys pipelineId answers) operations) := by
  rw [hydrated, gotPipeline, gotStages, gotTransforms, gotRules] at admissible ⊢
  have tidy := tidy_sortBy ids orders
  exact ⟨_, rfl, staysWellFormed_of_steady tidy operations
    ⟨⟨rfl, ⟨_, rfl, tidy⟩, fun _ => rfl⟩, fun _ => rfl⟩ admissible⟩

def twoStages : Answers Unit where
  pipeline := .ok ()
  stages := .ok [⟨"a", "p", 1, .filter, "", true⟩, ⟨"b", "p", 2, .script, "", true⟩]
  transforms := .ok []
  rules := .ok []
  revisions := .ok []
  current := .err "no revision" 404

def noKeys : Keys Unit where
  order _ := 0
  priority _ := 0

theorem stages_twoStages : (hydrated noKeys "p" twoStages).stages.map Stage.id = ["a", "b"] := by
  decide

/-- Two stages are swapped. -/
theorem staysWellFormed_iff_swapped : ∃ baseline, (hydrated noKeys "p" twoStages).baseline = some baseline ∧
    StaysWellFormed baseline (hydrated noKeys "p" twoStages) [.reorderStages ["b", "a"]] := by
  obtain ⟨baseline, same, stays⟩ := staysWellFormed_iff noKeys "p" twoStages rfl rfl rfl rfl (by decide)
    (by decide) [.reorderStages ["b", "a"]] ⟨trivial, trivial⟩
  refine ⟨baseline, same, stays.mpr ⟨⟨?_, .inl ?_⟩, trivial⟩⟩
  · rw [known, stages_twoStages]
    decide
  · rw [← @List.length_map _ _ _ Stage.id, known, stages_twoStages]
    rfl

end Runs

/-- A draft that was loaded with distinct ids and orders stays well formed. -/
def DraftStaysWellFormed (Json : Type) : Prop :=
  ∀ (keys : Keys Json) (pipelineId : String) (answers : Answers Json) (pipeline : Json) (stages : List Stage)
    (transforms rules : List Json), answers.pipeline = .ok pipeline → answers.stages = .ok stages →
    answers.transforms = .ok transforms → answers.rules = .ok rules → (stages.map Stage.id).Nodup →
    (stages.map Stage.stageOrder).Nodup → ∀ operations, Along Admissible (hydrated keys pipelineId answers) operations →
    ∃ baseline, (hydrated keys pipelineId answers).baseline = some baseline ∧
      StaysWellFormed baseline (hydrated keys pipelineId answers) operations

/-- An order that names one stage twice puts it into the draft twice. -/
theorem repeated_id_duplicates : ¬ DraftStaysWellFormed Unit := by
  intro claimed
  obtain ⟨baseline, -, -, ⟨after, -⟩, -⟩ := claimed noKeys "p" twoStages () _ [] [] rfl rfl rfl rfl (by decide)
    (by decide) [.reorderStages ["a", "a"]] ⟨trivial, trivial⟩
  obtain ⟨draft, now, tidy⟩ := after.draft
  have doubled : ((hydrated noKeys "p" twoStages).reorderStages ["a", "a"]).draft.map
      (fun draft => draft.stages.map Stage.id) = some ["a", "a"] := by decide
  rw [show ((hydrated noKeys "p" twoStages).reorderStages ["a", "a"]).draft = some draft from now] at doubled
  have ids : draft.stages.map Stage.id = ["a", "a"] := Option.some.inj doubled
  exact absurd (ids ▸ tidy.ids) (by decide)

end Studio

end MqConnector
