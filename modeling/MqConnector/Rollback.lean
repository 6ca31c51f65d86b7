/-
This file shows that a rollback restores what was captured, or nothing.

A snapshot passes through the JSON of its revision, an `UPDATE` with a column list of
its own and three loops of inserts. Children come back in the order in which they were
listed, ties included.
-/

import MqConnector.Snapshots
import MqConnector.ConfigRoundTrip

namespace MqConnector

open Fields Transfer

namespace Revisions

variable {around : ApplySurround} {tenantID pipelineID : String} {tables after : Tables}
  {row : Pipeline} {snapshot : PipelineSnapshot}

/-! ### A transaction that goes through -/

theorem wrapApply_bind_eq_ok {Value Next : Type} {what : String} {answer : Except String Value}
    {rest : Value → Except String Next} {next : Next}
    (done : (wrapApply what answer >>= rest) = .ok next) :
    ∃ value, answer = .ok value ∧ rest value = .ok next := by
  cases answer with
  | ok value => exact ⟨value, rfl, done⟩
  | error error => exact nomatch done

theorem insertAll_ok {Row : Type} {fails : Nat → Option String} {what : String}
    {entries : List (Row × Nat)} {table result : List Row}
    (done : insertAll fails what entries table = .ok result) :
    result = table ++ entries.map Prod.fst := by
  induction entries generalizing table with
  | nil =>
    rw [List.map_nil, List.append_nil]
    exact (Except.ok.inj done).symm
  | cons entry rest hypothesis =>
    obtain ⟨child, index⟩ := entry
    unfold insertAll at done
    split at done
    · exact nomatch done
    · rw [hypothesis done, List.map_cons, List.append_assoc]
      rfl

theorem replaceForPipelineTx_ok {Row : Type} {mine : Row → Bool} {place : Row → Nat → Row}
    {clearFails : Option String} {insertFails : Nat → Option String} {clear what : String}
    {rows table result : List Row}
    (done : replaceForPipelineTx tenantID mine place clearFails insertFails clear what rows table =
      .ok result) :
    result = (table.filter fun child => !mine child) ++
      rows.zipIdx.map fun entry => place entry.1 entry.2 := by
  unfold replaceForPipelineTx at done
  split at done
  · exact nomatch done
  · split at done
    · exact nomatch done
    · rw [insertAll_ok done, List.map_map]
      rfl

theorem updateExec_ok {failure : Option String} (done : updateExec failure tenantID row tables =
      .ok after) :
    (∃ old ∈ tables.pipelines, old.id = row.id ∧ old.tenantID = tenantID) ∧
      after = { tables with
        pipelines := tables.pipelines.map fun old =>
          if old.id = row.id ∧ old.tenantID = tenantID then updatedRow old row else old } := by
  unfold updateExec at done
  split at done
  · exact nomatch done
  · split at done
    · exact nomatch done
    · split at done
      · rename_i found
        obtain ⟨old, member, mine⟩ := List.any_eq_true.mp found
        exact ⟨⟨old, member, of_decide_eq_true mine⟩, (Except.ok.inj done).symm⟩
      · exact nomatch done

/-- The tables after a transaction of `applyRevisionLive`. -/
def written (around : ApplySurround) (tenantID pipelineID : String) (row : Pipeline)
    (snapshot : PipelineSnapshot) (tables : Tables) : Tables :=
  { tables with
    pipelines := tables.pipelines.map fun old =>
      if old.id = pipelineID ∧ old.tenantID = tenantID then
        updatedRow old { row with id := pipelineID, tenantID := tenantID } else old
    stages := (tables.stages.filter fun child =>
        !decide (child.pipelineID = pipelineID ∧ child.tenantID = tenantID)) ++
      snapshot.stages.zipIdx.map fun entry =>
        placeStage around tenantID pipelineID entry.1 entry.2
    transforms := (tables.transforms.filter fun child =>
        !decide (child.pipelineID = pipelineID ∧ child.tenantID = tenantID)) ++
      snapshot.transforms.zipIdx.map fun entry =>
        placeTransform around tenantID pipelineID entry.1 entry.2
    routingRules := (tables.routingRules.filter fun child =>
        !decide (child.pipelineID = pipelineID ∧ child.tenantID = tenantID)) ++
      snapshot.routingRules.zipIdx.map fun entry =>
        placeRoutingRule around tenantID pipelineID entry.1 entry.2 }

theorem applyTx_ok (done : applyTx around tenantID pipelineID row snapshot tables = .ok after) :
    (∃ old ∈ tables.pipelines, old.id = pipelineID ∧ old.tenantID = tenantID) ∧
      after = written around tenantID pipelineID row snapshot tables := by
  obtain ⟨-, -, done⟩ := wrapApply_bind_eq_ok done
  obtain ⟨updated, update, done⟩ := wrapApply_bind_eq_ok done
  obtain ⟨stages, replacedStages, done⟩ := wrapApply_bind_eq_ok done
  obtain ⟨transforms, replacedTransforms, done⟩ := wrapApply_bind_eq_ok done
  obtain ⟨routingRules, replacedRules, done⟩ := wrapApply_bind_eq_ok done
  obtain ⟨-, -, done⟩ := wrapApply_bind_eq_ok done
  obtain ⟨present, rfl⟩ := updateExec_ok update
  refine ⟨present, (Except.ok.inj done).symm.trans ?_⟩
  rw [replaceForPipelineTx_ok replacedStages, replaceForPipelineTx_ok replacedTransforms,
    replaceForPipelineTx_ok replacedRules]
  rfl

/-- A rollback fails and changes nothing, or writes everything. -/
theorem applyRevisionLive_cases (around : ApplySurround) (tenantID pipelineID : String)
    (snapshot : PipelineSnapshot) (tables : Tables) :
    (∃ error, applyRevisionLive around tenantID pipelineID snapshot tables = (some error, tables)) ∨
      ∃ row, snapshot.pipeline = some row ∧
        (∃ old ∈ tables.pipelines, old.id = pipelineID ∧ old.tenantID = tenantID) ∧
        applyRevisionLive around tenantID pipelineID snapshot tables =
          (none, written around tenantID pipelineID row snapshot tables) := by
  unfold applyRevisionLive
  split
  · exact Or.inl ⟨_, rfl⟩
  · rename_i row found
    split
    · exact Or.inl ⟨_, rfl⟩
    · split
      · exact Or.inl ⟨_, rfl⟩
      · split
        · exact Or.inl ⟨_, rfl⟩
        · rename_i result done
          obtain ⟨present, rfl⟩ := applyTx_ok done
          exact Or.inr ⟨row, found, present, rfl⟩

/-! ### What is read afterwards -/

/-- Children in the order in which they are listed, with configured stages. -/
structure Listed (snapshot : PipelineSnapshot) : Prop where
  stages : snapshot.stages.Pairwise fun former latter => former.stageOrder ≤ latter.stageOrder
  configured : ∀ stage ∈ snapshot.stages, stage.stageConfig ≠ ""
  transforms : snapshot.transforms.Pairwise fun former latter => former.order ≤ latter.order
  routingRules : snapshot.routingRules.Pairwise fun former latter => former.priority ≤ latter.priority

theorem listed_written {Child : Type} {mine : Child → Bool} {place : Child → Nat → Child}
    {key : Child → Int} {children others : List Child}
    (placed : ∀ child index, mine (place child index) = true)
    (reads : ∀ child index, key (place child index) = key child)
    (ordered : children.Pairwise fun former latter => key former ≤ key latter) :
    (((others.filter fun child => !mine child) ++
        children.zipIdx.map fun entry => place entry.1 entry.2).filter mine).insertionSort
      (fun former latter => key former ≤ key latter) =
        children.zipIdx.map fun entry => place entry.1 entry.2 := by
  have gone : ((others.filter fun child => !mine child).filter mine) = [] := by
    refine filter_of_absent fun child member => ?_
    exact (Bool.not_eq_true' _).mp (List.mem_filter.mp member).2
  have all : ((children.zipIdx.map fun entry => place entry.1 entry.2).filter mine) =
      children.zipIdx.map fun entry => place entry.1 entry.2 := by
    refine List.filter_eq_self.mpr fun child member => ?_
    obtain ⟨entry, -, rfl⟩ := List.mem_map.mp member
    exact placed entry.1 entry.2
  have keys : (children.zipIdx.map fun entry => place entry.1 entry.2).map key =
      children.map key := by
    rw [List.map_map]
    have same : (key ∘ fun entry : Child × Nat => place entry.1 entry.2) = key ∘ Prod.fst :=
      funext fun entry => reads entry.1 entry.2
    rw [same, ← List.map_map, List.zipIdx_map_fst]
  rw [List.filter_append, gone, List.nil_append, all]
  refine List.Pairwise.insertionSort_eq (List.pairwise_map.mp ?_)
  rw [keys]
  exact List.pairwise_map.mpr ordered

theorem getPipeline_written (present : ∃ old ∈ tables.pipelines,
      old.id = pipelineID ∧ old.tenantID = tenantID) :
    getPipeline (written around tenantID pipelineID row snapshot tables) tenantID pipelineID =
      some { row with id := pipelineID, tenantID := tenantID } := by
  obtain ⟨old, member, mine⟩ := present
  unfold getPipeline written
  dsimp only
  rw [List.find?_map]
  have same : ((fun row : Pipeline => decide (row.id = pipelineID ∧ row.tenantID = tenantID)) ∘
      fun old => if old.id = pipelineID ∧ old.tenantID = tenantID then
        updatedRow old { row with id := pipelineID, tenantID := tenantID } else old) =
      fun row => decide (row.id = pipelineID ∧ row.tenantID = tenantID) := by
    funext other
    dsimp only [Function.comp_apply]
    split
    · rfl
    · rfl
  rw [same]
  cases found : tables.pipelines.find?
    fun row => decide (row.id = pipelineID ∧ row.tenantID = tenantID) with
  | none => exact absurd (decide_eq_true mine) (List.find?_eq_none.mp found old member)
  | some first =>
    have passes := List.find?_some found
    obtain ⟨id, tenant⟩ : first.id = pipelineID ∧ first.tenantID = tenantID :=
      of_decide_eq_true passes
    rw [Option.map_some, if_pos ⟨id, tenant⟩, updatedRow, id, tenant]

/-- The snapshot that is read after a revision was written back. -/
def rewritten (around : ApplySurround) (tenantID pipelineID : String) (row : Pipeline)
    (snapshot : PipelineSnapshot) : VersionedSnapshot where
  pipeline := some { row with id := pipelineID, tenantID := tenantID }
  stages := snapshot.stages.zipIdx.map fun entry =>
    placeStage around tenantID pipelineID entry.1 entry.2
  transforms := snapshot.transforms.zipIdx.map fun entry =>
    placeTransform around tenantID pipelineID entry.1 entry.2
  routingRules := snapshot.routingRules.zipIdx.map fun entry =>
    placeRoutingRule around tenantID pipelineID entry.1 entry.2

/-- What was written is captured again. -/
theorem capture_written (present : ∃ old ∈ tables.pipelines,
      old.id = pipelineID ∧ old.tenantID = tenantID) (listed : Listed snapshot) :
    capture (written around tenantID pipelineID row snapshot tables) tenantID pipelineID =
      some (rewritten around tenantID pipelineID row snapshot) := by
  have stages : (written around tenantID pipelineID row snapshot tables).listStages tenantID
      pipelineID = (rewritten around tenantID pipelineID row snapshot).stages :=
    listed_written (fun _ _ => decide_eq_true ⟨rfl, rfl⟩) (fun _ _ => rfl) listed.stages
  have transforms : (written around tenantID pipelineID row snapshot tables).listTransforms tenantID
      pipelineID = (rewritten around tenantID pipelineID row snapshot).transforms :=
    listed_written (fun _ _ => decide_eq_true ⟨rfl, rfl⟩) (fun _ _ => rfl) listed.transforms
  have routingRules : (written around tenantID pipelineID row snapshot tables).listRoutingRules
      tenantID pipelineID = (rewritten around tenantID pipelineID row snapshot).routingRules :=
    listed_written (fun _ _ => decide_eq_true ⟨rfl, rfl⟩) (fun _ _ => rfl) listed.routingRules
  unfold capture
  rw [getPipeline_written present, stages, transforms, routingRules]
  rfl

/-! ### What was captured -/

theorem listed_of_capture {tables : Tables} {taken : VersionedSnapshot}
    (configured : ∀ stage ∈ tables.stages, stage.stageConfig ≠ "")
    (captured : capture tables tenantID pipelineID = some taken) :
    Listed taken.toPipelineSnapshot := by
  obtain ⟨row, -, rfl⟩ := Option.map_eq_some_iff.mp captured
  refine ⟨pairwise_sorted (fun child : StageRow => child.stageOrder) _, ?_,
    pairwise_sorted (fun child : Transform => child.order) _,
    pairwise_sorted (fun child : RoutingRule => child.priority) _⟩
  intro stage member
  exact configured stage (List.mem_filter.mp ((List.mem_insertionSort _).mp member)).1

/-- A snapshot without the ids of its children. -/
def withoutChildIDs (snapshot : VersionedSnapshot) : VersionedSnapshot :=
  { snapshot with
    stages := snapshot.stages.map fun child => { child with id := "" }
    transforms := snapshot.transforms.map fun child => { child with id := "" }
    routingRules := snapshot.routingRules.map fun child => { child with id := "" } }

theorem snapshotForHash_withoutChildIDs (snapshot : VersionedSnapshot) :
    snapshotForHash (withoutChildIDs snapshot) = snapshotForHash snapshot := by
  unfold snapshotForHash withoutChildIDs
  dsimp only
  rw [List.map_map, List.map_map, List.map_map]
  rfl

theorem map_placed {Child Seen : Type} {look : Child → Seen} {place : Child → Nat → Child}
    {children : List Child} (same : ∀ child ∈ children, ∀ index, look (place child index) = look child) :
    (children.zipIdx.map fun entry => place entry.1 entry.2).map look = children.map look := by
  have firsts : children.map look = children.zipIdx.map (look ∘ Prod.fst) := by
    rw [← List.map_map, List.zipIdx_map_fst]
  rw [List.map_map, firsts]
  refine List.map_congr_left fun entry member => ?_
  exact same entry.1 (List.fst_mem_of_mem_zipIdx member) entry.2

theorem withoutChildIDs_rewritten {database : Database} {taken : VersionedSnapshot}
    (captured : capture database.toTables tenantID pipelineID = some taken)
    (present : taken.pipeline = some row) :
    withoutChildIDs (rewritten around tenantID pipelineID row taken.toPipelineSnapshot) =
      withoutChildIDs taken := by
  obtain ⟨held, found, rfl⟩ := Option.map_eq_some_iff.mp captured
  obtain rfl : held = row := Option.some.inj present
  have passes := List.find?_some found
  obtain ⟨rfl, rfl⟩ : held.id = pipelineID ∧ held.tenantID = tenantID := of_decide_eq_true passes
  have mine : ∀ {Child : Type} {rows : List Child} {pipelineOf tenantOf : Child → String}
      {order : Child → Child → Prop} [DecidableRel order] {child : Child},
      child ∈ (rows.filter fun child =>
        decide (pipelineOf child = held.id ∧ tenantOf child = held.tenantID)).insertionSort order →
          child ∈ rows ∧ pipelineOf child = held.id ∧ tenantOf child = held.tenantID := by
    intro Child rows pipelineOf tenantOf order _ child member
    obtain ⟨stored, own⟩ := List.mem_filter.mp ((List.mem_insertionSort _).mp member)
    exact ⟨stored, of_decide_eq_true own⟩
  unfold withoutChildIDs rewritten
  dsimp only
  rw [map_placed, map_placed, map_placed]
  · intro child member index
    obtain ⟨-, pipeline, tenant⟩ := mine member
    unfold placeRoutingRule
    rw [← pipeline, ← tenant]
  · intro child member index
    obtain ⟨-, pipeline, tenant⟩ := mine member
    unfold placeTransform
    rw [← pipeline, ← tenant]
  · intro child member index
    obtain ⟨stored, pipeline, tenant⟩ := mine member
    unfold placeStage
    dsimp only
    rw [if_neg (database.configured child stored), ← pipeline, ← tenant]

/-! ### Restored or nothing -/

def decodeSnapshot (codec : Codec) (text : String) : Option VersionedSnapshot :=
  (codec.parse text).map Document.snapshot

/-- A stored text decodes, and writing it back either restores what was captured or changes nothing. -/
def RestoresOrNothing (codec : Codec) (sha256 : String → Fin 32 → UInt8) (around : ApplySurround)
    (tenantID pipelineID : String) (taken : VersionedSnapshot) (later : Tables) : Prop :=
  ∃ decoded, decodeSnapshot codec (codec.document taken.document) = some decoded ∧
    let answer := applyRevisionLive around tenantID pipelineID decoded.toPipelineSnapshot later
    (answer.1 = none → ∃ again, capture answer.2 tenantID pipelineID = some again ∧
      withoutChildIDs again = withoutChildIDs taken ∧
      snapshotHash codec sha256 again = snapshotHash codec sha256 taken) ∧
    (answer.1 ≠ none → answer.2 = later)

/-- Every configuration of a pipeline that was captured is restored by its revision, with the same
hash, or the revision is refused and the tables are as they were. -/
theorem restoresOrNothing (codec : Codec) (sha256 : String → Fin 32 → UInt8) (around : ApplySurround)
    (tenantID pipelineID : String) (database : Database) (taken : VersionedSnapshot) (later : Tables)
    (captured : capture database.toTables tenantID pipelineID = some taken)
    (roundTrips : codec.parse (codec.document taken.document) = some taken.document) :
    RestoresOrNothing codec sha256 around tenantID pipelineID taken later := by
  refine ⟨taken, ?_, ?_⟩
  · rw [decodeSnapshot, roundTrips, Option.map_some, taken.snapshot_document]
  rcases applyRevisionLive_cases around tenantID pipelineID taken.toPipelineSnapshot later with
    ⟨error, failed⟩ | ⟨row, held, present, done⟩
  · rw [failed]
    exact ⟨fun none => absurd none (Option.some_ne_none error), fun _ => rfl⟩
  · rw [done]
    refine ⟨fun _ => ?_, fun error => absurd rfl error⟩
    have same := @withoutChildIDs_rewritten around _ _ row _ _ captured held
    refine ⟨_, capture_written present (listed_of_capture database.configured captured), same, ?_⟩
    rw [snapshotHash, snapshotHash, ← snapshotForHash_withoutChildIDs, same,
      snapshotForHash_withoutChildIDs]

/-! ### Samples -/

/-- A pipeline with two stages of the same order. -/
def tiedDatabase : Database :=
  { sampleDatabase "" false 0 with
    stages := [
      { id := "g2", tenantID := "t", pipelineID := "p1", stageOrder := 1, stageType := "script",
        stageConfig := "\x7b\x7d" },
      { id := "g1", tenantID := "t", pipelineID := "p1", stageOrder := 1, stageType := "filter",
        stageConfig := "\x7b\x7d" }]
    stageTypes := by simp [Transfer.stageTypes]
    configured := by simp }

def tiedSnapshot : VersionedSnapshot where
  pipeline := some
    { id := "p1", tenantID := "t", name := "p", sourceID := "c1", destinationID := "c2", workers := 0 }
  stages := tiedDatabase.stages
  transforms := tiedDatabase.transforms
  routingRules := tiedDatabase.routingRules

def tiedSha256 (text : String) (index : Fin 32) : UInt8 :=
  if text = plainDocument (snapshotForHash tiedSnapshot).document then
    UInt8.ofNat (0x95a442261c6e728049f2a9d670a8ffbd51bac322f53cfedf8f2b9024d7521095 /
      256 ^ (31 - index.val))
  else 0

/-- The pipeline later, under another name and without stages. -/
def laterTables : Tables :=
  { tiedDatabase.toTables with
    pipelines := [
      { id := "p1", tenantID := "t", name := "renamed", sourceID := "c1", destinationID := "c1" }]
    stages := [] }

/-- The snapshot is restored; if the commit fails, nothing changes. -/
theorem tiedSnapshot_restored :
    (applyRevisionLive {} "t" "p1" tiedSnapshot.toPipelineSnapshot laterTables).1 = none ∧
      RestoresOrNothing (plainCodec [tiedSnapshot.document]) tiedSha256 {} "t" "p1" tiedSnapshot
        laterTables ∧
      RestoresOrNothing (plainCodec [tiedSnapshot.document]) tiedSha256
        { fails := fun statement => if statement = .commit then some "disk full" else none } "t" "p1"
        tiedSnapshot laterTables := by
  have captured : capture tiedDatabase.toTables "t" "p1" = some tiedSnapshot := by decide
  refine ⟨by decide, ?_, ?_⟩
  · exact restoresOrNothing _ tiedSha256 {} "t" "p1" tiedDatabase tiedSnapshot laterTables captured
      (plainCodec_parse _)
  · exact restoresOrNothing _ tiedSha256 _ "t" "p1" tiedDatabase tiedSnapshot laterTables captured
      (plainCodec_parse _)

end Revisions

end MqConnector
