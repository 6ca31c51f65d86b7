/-
This file asks whether a revision may mix two configurations.

A snapshot is read from four tables by four statements, and nothing keeps the writers
away between them. What it has read and what it has still to read belong to one
configuration as long as every write in between leaves one of the two alone. Two saves
tear a snapshot, one behind the reader and then one ahead of it; a deploy or a rollback
does it alone.
-/

import MqConnector.LatestDeployed

namespace MqConnector

open Transfer

namespace Revisions

/-! ### What was read and what is left -/

def Reading.Holds (tenantID pipelineID : String) (tables : Tables) : Reading → Prop
  | .started => True
  | .pipeline row => getPipeline tables tenantID pipelineID = some row
  | .stages row readStages => getPipeline tables tenantID pipelineID = some row ∧
      tables.listStages tenantID pipelineID = readStages
  | .transforms row readStages readTransforms => getPipeline tables tenantID pipelineID = some row ∧
      tables.listStages tenantID pipelineID = readStages ∧
      tables.listTransforms tenantID pipelineID = readTransforms

/-- Both tables hold the same of what is still to be read. -/
def Reading.SameRest (tenantID pipelineID : String) (former latter : Tables) : Reading → Prop
  | .started => getPipeline former tenantID pipelineID = getPipeline latter tenantID pipelineID ∧
      former.listStages tenantID pipelineID = latter.listStages tenantID pipelineID ∧
      former.listTransforms tenantID pipelineID = latter.listTransforms tenantID pipelineID ∧
      former.listRoutingRules tenantID pipelineID = latter.listRoutingRules tenantID pipelineID
  | .pipeline _ => former.listStages tenantID pipelineID = latter.listStages tenantID pipelineID ∧
      former.listTransforms tenantID pipelineID = latter.listTransforms tenantID pipelineID ∧
      former.listRoutingRules tenantID pipelineID = latter.listRoutingRules tenantID pipelineID
  | .stages _ _ => former.listTransforms tenantID pipelineID = latter.listTransforms tenantID pipelineID ∧
      former.listRoutingRules tenantID pipelineID = latter.listRoutingRules tenantID pipelineID
  | .transforms _ _ _ =>
      former.listRoutingRules tenantID pipelineID = latter.listRoutingRules tenantID pipelineID

/-- The write leaves alone what was read or what is still to be read. -/
def Job.Spared (tenantID pipelineID : String) (before after : Tables) : Job → Prop
  | .reading progress => progress.Holds tenantID pipelineID after ∨
      progress.SameRest tenantID pipelineID before after
  | _ => True

/-- The condition on the steps of a run: no write tears a snapshot that is being read. -/
def Untorn (tenantID pipelineID : String) (state : HistoryState) : HistoryAction → Prop
  | .operate operation around =>
    ∀ done ∈ operation.run tenantID pipelineID around state,
      ∀ job ∈ state.jobs, job.Spared tenantID pipelineID state.tables done.1
  | _ => True

/-- The snapshot is what the four tables held together at one of the instants. -/
def Lived (tenantID pipelineID : String) (instants : List Tables) (snapshot : PipelineSnapshot) : Prop :=
  ∃ tables ∈ instants,
    (capture tables tenantID pipelineID).map VersionedSnapshot.toPipelineSnapshot = some snapshot

section Decidable

variable (tenantID pipelineID : String)

instance (tables : Tables) : (progress : Reading) → Decidable (progress.Holds tenantID pipelineID tables)
  | .started => instDecidableTrue
  | .pipeline _ => inferInstanceAs (Decidable (_ = _))
  | .stages _ _ => inferInstanceAs (Decidable (_ = _ ∧ _ = _))
  | .transforms _ _ _ => inferInstanceAs (Decidable (_ = _ ∧ _ = _ ∧ _ = _))

instance (former latter : Tables) :
    (progress : Reading) → Decidable (progress.SameRest tenantID pipelineID former latter)
  | .started => inferInstanceAs (Decidable (_ = _ ∧ _ = _ ∧ _ = _ ∧ _ = _))
  | .pipeline _ => inferInstanceAs (Decidable (_ = _ ∧ _ = _ ∧ _ = _))
  | .stages _ _ => inferInstanceAs (Decidable (_ = _ ∧ _ = _))
  | .transforms _ _ _ => inferInstanceAs (Decidable (_ = _))

instance (before after : Tables) : (job : Job) → Decidable (job.Spared tenantID pipelineID before after)
  | .reading _ => inferInstanceAs (Decidable (_ ∨ _))
  | .publishing _ _ _ => instDecidableTrue
  | .marking _ => instDecidableTrue

instance (state : HistoryState) : (action : HistoryAction) → Decidable (Untorn tenantID pipelineID state action)
  | .operate operation around => inferInstanceAs
      (Decidable (∀ done ∈ operation.run tenantID pipelineID around state, ∀ job ∈ state.jobs, _))
  | .read _ => instDecidableTrue
  | .publish _ _ => instDecidableTrue
  | .mark _ _ _ => instDecidableTrue
  | .abandon _ => instDecidableTrue

instance (instants : List Tables) (snapshot : PipelineSnapshot) :
    Decidable (Lived tenantID pipelineID instants snapshot) :=
  inferInstanceAs (Decidable (∃ tables ∈ instants, _))

end Decidable

/-! ### The invariant -/

section Invariant

variable {tenantID pipelineID : String} {hash : VersionedSnapshot → String}

theorem Reading.SameRest.refl (tables : Tables) (progress : Reading) :
    progress.SameRest tenantID pipelineID tables tables := by
  cases progress with
  | started => exact ⟨rfl, rfl, rfl, rfl⟩
  | pipeline row => exact ⟨rfl, rfl, rfl⟩
  | stages row readStages => exact ⟨rfl, rfl⟩
  | transforms row readStages readTransforms => exact Eq.refl _

theorem Reading.SameRest.trans {former between latter : Tables} {progress : Reading}
    (first : progress.SameRest tenantID pipelineID former between)
    (second : progress.SameRest tenantID pipelineID between latter) :
    progress.SameRest tenantID pipelineID former latter := by
  cases progress with
  | started =>
    exact ⟨first.1.trans second.1, first.2.1.trans second.2.1, first.2.2.1.trans second.2.2.1,
      first.2.2.2.trans second.2.2.2⟩
  | pipeline row =>
    exact ⟨first.1.trans second.1, first.2.1.trans second.2.1, first.2.2.trans second.2.2⟩
  | stages row readStages => exact ⟨first.1.trans second.1, first.2.trans second.2⟩
  | transforms row readStages readTransforms => exact Eq.trans first second

/-- What a job has of a snapshot belongs to one instant. -/
def Job.Whole (tenantID pipelineID : String) (state : HistoryState) : Job → Prop
  | .reading progress => ∃ tables ∈ state.instants, progress.Holds tenantID pipelineID tables ∧
      progress.SameRest tenantID pipelineID tables state.tables
  | .publishing snapshot _ _ => Lived tenantID pipelineID state.instants snapshot
  | .marking _ => True

/-- What untorn steps keep. -/
structure Whole (tenantID pipelineID : String) (state : HistoryState) : Prop where
  live : state.tables ∈ state.instants
  configured : ∀ tables ∈ state.instants, Configured tables
  jobs : ∀ job ∈ state.jobs, job.Whole tenantID pipelineID state
  revisions : ∀ revision ∈ state.revisions, ∃ snapshot, revision.snapshot = some snapshot ∧
    Lived tenantID pipelineID state.instants snapshot

theorem Lived.later {instants : List Tables} {snapshot : PipelineSnapshot}
    (lived : Lived tenantID pipelineID instants snapshot) (after : Tables) :
    Lived tenantID pipelineID (instants ++ [after]) snapshot := by
  obtain ⟨tables, member, held⟩ := lived
  exact ⟨tables, List.mem_append_left _ member, held⟩

theorem Job.Whole.next {state : HistoryState} {progress : Reading} {job : Job}
    (whole : (Job.reading progress).Whole tenantID pipelineID state)
    (read : progress.next tenantID pipelineID hash state.tables = some job) :
    job.Whole tenantID pipelineID state := by
  obtain ⟨tables, member, holds, rest⟩ := whole
  cases progress with
  | started =>
    obtain ⟨row, found, rfl⟩ := Option.map_eq_some_iff.mp read
    exact ⟨tables, member, rest.1.trans found, rest.2⟩
  | pipeline row =>
    obtain rfl := Option.some.inj read
    exact ⟨tables, member, ⟨holds, rest.1⟩, rest.2⟩
  | stages row readStages =>
    obtain rfl := Option.some.inj read
    exact ⟨tables, member, ⟨holds.1, holds.2, rest.1⟩, rest.2⟩
  | transforms row readStages readTransforms =>
    obtain rfl := Option.some.inj read
    obtain ⟨found, rfl, rfl⟩ := holds
    refine ⟨tables, member, ?_⟩
    unfold capture
    rw [found, Option.map_some, Option.map_some]
    exact congrArg (fun rules => some (PipelineSnapshot.mk _ _ _ rules)) rest

theorem Job.Whole.write {state : HistoryState} {job : Job} {after : Tables} {others : List Job}
    (whole : job.Whole tenantID pipelineID state)
    (spared : job.Spared tenantID pipelineID state.tables after) :
    job.Whole tenantID pipelineID { state with
      tables := after
      jobs := others
      instants := state.instants ++ [after] } := by
  cases job with
  | reading progress =>
    obtain ⟨tables, member, holds, rest⟩ := whole
    rcases spared with current | unchanged
    · exact ⟨after, List.mem_append_right _ (List.mem_singleton_self after), current,
        .refl after progress⟩
    · exact ⟨tables, List.mem_append_left _ member, holds, rest.trans unchanged⟩
  | publishing snapshot snapshotHash force => exact Lived.later whole after
  | marking number => exact trivial

variable {state : HistoryState}

theorem Whole.operate (whole : Whole tenantID pipelineID state) {operation : Operation}
    {around : ApplySurround} {after : Tables} {job : Job}
    (untorn : Untorn tenantID pipelineID state (.operate operation around))
    (ran : operation.run tenantID pipelineID around state = some (after, job)) :
    Whole tenantID pipelineID { state with
      tables := after
      jobs := state.jobs ++ [job]
      instants := state.instants ++ [after] } := by
  have final : after ∈ state.instants ++ [after] :=
    List.mem_append_right _ (List.mem_singleton_self after)
  have configured : Configured after :=
    (operation.leaves ran).configured (whole.configured state.tables whole.live)
  refine ⟨final, ?_, ?_, ?_⟩
  · intro tables member
    rcases List.mem_append.mp member with earlier | last
    · exact whole.configured tables earlier
    · exact List.mem_singleton.mp last ▸ configured
  · intro other member
    rcases List.mem_append.mp member with earlier | last
    · exact (whole.jobs other earlier).write (untorn (after, job) ran other earlier)
    · rw [List.mem_singleton.mp last]
      cases operation.leaves ran with
      | saved present configured => exact ⟨after, final, trivial, .refl after .started⟩
      | deployed found held present live => exact trivial
      | rolledBack found held present live =>
        -- the snapshot that is written back is one of a stored revision
        obtain ⟨stored, has⟩ := target_eq_some found
        obtain ⟨snapshot, same, lived⟩ := whole.revisions _ stored
        obtain rfl := Option.some.inj (has.symm.trans same)
        exact Lived.later lived _
  · intro revision member
    obtain ⟨snapshot, held, lived⟩ := whole.revisions revision member
    exact ⟨snapshot, held, lived.later after⟩

theorem Whole.publish (whole : Whole tenantID pipelineID state) {index : Nat} {snapshot : PipelineSnapshot}
    {snapshotHash : String} {force : Bool} (details : PipelineRevision)
    (there : state.jobs[index]? = some (.publishing snapshot snapshotHash force)) :
    ∀ revision ∈ (published tenantID pipelineID state.revisions snapshot snapshotHash force details).1,
      ∃ snapshot, revision.snapshot = some snapshot ∧
        Lived tenantID pipelineID state.instants snapshot := by
  have lived : Lived tenantID pipelineID state.instants snapshot :=
    whole.jobs _ (List.mem_of_getElem? there)
  have appended : ∀ created : PipelineRevision, created.snapshot = some snapshot →
      ∀ revision ∈ state.revisions ++ [created], ∃ snapshot, revision.snapshot = some snapshot ∧
        Lived tenantID pipelineID state.instants snapshot := by
    intro created held revision member
    rcases List.mem_append.mp member with earlier | last
    · exact whole.revisions revision earlier
    · rw [List.mem_singleton.mp last]
      exact ⟨snapshot, held, lived⟩
  unfold published
  dsimp only
  split
  · exact appended _ rfl
  · unfold PipelineRevision.create
    dsimp only
    split
    · split
      · exact whole.revisions
      · exact appended _ rfl
    · exact appended _ rfl

/-- Every untorn step keeps the snapshots whole. -/
theorem Whole.step (whole : Whole tenantID pipelineID state) {action : HistoryAction} {after : HistoryState}
    (untorn : Untorn tenantID pipelineID state action)
    (fired : historyStep tenantID pipelineID hash state action = some after) :
    Whole tenantID pipelineID after := by
  have erased : ∀ index, ∀ job ∈ state.jobs.eraseIdx index, job.Whole tenantID pipelineID state :=
    fun index job member => whole.jobs job (List.mem_of_mem_eraseIdx member)
  have set : ∀ index {new : Job}, new.Whole tenantID pipelineID state →
      ∀ job ∈ state.jobs.set index new, job.Whole tenantID pipelineID state := by
    intro index new held job member
    rcases List.mem_or_eq_of_mem_set member with earlier | rfl
    · exact whole.jobs job earlier
    · exact held
  cases historyStep_steps fired with
  | operated ran => exact whole.operate untorn ran
  | read there next =>
    have kept := (whole.jobs _ (List.mem_of_getElem? there)).next next
    exact ⟨whole.live, whole.configured, set _ kept, whole.revisions⟩
  | gone there absent => exact ⟨whole.live, whole.configured, erased _, whole.revisions⟩
  | published there =>
    exact ⟨whole.live, whole.configured, set _ trivial, whole.publish _ there⟩
  | marked there =>
    refine ⟨whole.live, whole.configured, erased _, fun revision member => ?_⟩
    obtain ⟨former, among, rfl⟩ := List.mem_map.mp member
    split
    · exact whole.revisions former among
    · exact whole.revisions former among
  | abandoned inside => exact ⟨whole.live, whole.configured, erased _, whole.revisions⟩

end Invariant

/-! ### No revision mixes two configurations -/

/-- The snapshot was live at one instant, and whenever it is written back, what is live then is, up to
the ids of the children, what was live at that instant. -/
def Restorable (tenantID pipelineID : String) (instants : List Tables) (snapshot : PipelineSnapshot) :
    Prop :=
  ∃ tables ∈ instants,
    (capture tables tenantID pipelineID).map VersionedSnapshot.toPipelineSnapshot = some snapshot ∧
      ∀ around before after, applyRevisionLive around tenantID pipelineID snapshot before = (none, after) →
        (capture after tenantID pipelineID).map snapshotForHash =
          (capture tables tenantID pipelineID).map snapshotForHash

/-- A state that was lived can be restored. -/
theorem Lived.restorable {tenantID pipelineID : String} {instants : List Tables}
    {snapshot : PipelineSnapshot} (lived : Lived tenantID pipelineID instants snapshot)
    (configured : ∀ tables ∈ instants, Configured tables) :
    Restorable tenantID pipelineID instants snapshot := by
  obtain ⟨tables, member, held⟩ := lived
  refine ⟨tables, member, held, fun around before after applied => ?_⟩
  obtain ⟨taken, captured, rfl⟩ := Option.map_eq_some_iff.mp held
  have sound : Sound tenantID pipelineID taken.toPipelineSnapshot := by
    refine ⟨?_, listed_of_capture (configured tables member) captured⟩
    obtain ⟨row, found, rfl⟩ := Option.map_eq_some_iff.mp captured
    exact ⟨row, rfl, getPipeline_mine found⟩
  rcases applyRevisionLive_cases around tenantID pipelineID taken.toPipelineSnapshot before with
    ⟨error, failed⟩ | ⟨row, stored, present, written⟩
  · rw [failed] at applied
    exact nomatch applied
  · obtain ⟨-, rfl⟩ := Prod.mk.inj (written.symm.trans applied)
    have described := @describes_written _ _ _ _ around _ present sound stored
    rw [described, captured]
    -- a captured snapshot is of the current schema version
    obtain ⟨row, -, rfl⟩ := Option.map_eq_some_iff.mp captured
    rfl

/-- In every run in which no write tears a snapshot that is being read, every revision was live at one
instant. -/
theorem revisions_restorable (tenantID pipelineID : String) (hash : VersionedSnapshot → String)
    (database : Database) (state : HistoryState)
    (reached : Runs.Reaches (historyStep tenantID pipelineID hash) (Untorn tenantID pipelineID)
      (.start database.toTables) state) :
    ∀ revision ∈ state.revisions, ∃ snapshot, revision.snapshot = some snapshot ∧
      Restorable tenantID pipelineID state.instants snapshot := by
  have initially : Whole tenantID pipelineID (.start database.toTables) := by
    refine ⟨List.mem_singleton_self _, fun tables member => ?_, ?_, ?_⟩
    · exact List.mem_singleton.mp member ▸ database.configured
    · exact fun _ member => absurd member List.not_mem_nil
    · exact fun _ member => absurd member List.not_mem_nil
  have whole : Whole tenantID pipelineID state :=
    reached.invariant (Whole tenantID pipelineID) initially
      fun _ _ _ before untorn fired => before.step untorn fired
  intro revision member
  obtain ⟨snapshot, held, lived⟩ := whole.revisions revision member
  exact ⟨snapshot, held, lived.restorable whole.configured⟩

/-- A snapshot is read while the row of the pipeline is updated again; the second one follows, and a
rollback. -/
def overlapping : List HistoryAction :=
  [.operate (.updatePipeline (namedPipeline "a")) {}, .read 0,
    .operate (.updatePipeline (namedPipeline "b")) {}, .read 0, .read 1, .read 0, .read 0, .read 1,
    .publish 0 (revisionDetails "a"), .read 1, .read 1, .publish 1 (revisionDetails "b"),
    .operate (.rollback 1) {}, .publish 2 (revisionDetails "rollback")]

/-- Three revisions of overlapping jobs, none of which was torn, can all be restored. -/
theorem overlapping_restorable :
    ∃ state, Runs.Reaches (historyStep "t" "p1" namedHash) (Untorn "t" "p1")
        (.start childlessDatabase.toTables) state ∧ state.revisions.length = 3 ∧
      ∀ revision ∈ state.revisions, ∃ snapshot, revision.snapshot = some snapshot ∧
        Restorable "t" "p1" state.instants snapshot := by
  obtain ⟨state, reached, tested⟩ := Runs.exists_reaches_of_exec (historyStep "t" "p1" namedHash)
    (Untorn "t" "p1") (.start childlessDatabase.toTables) overlapping
    (fun state => decide (state.revisions.length = 3)) (by decide +kernel)
  exact ⟨state, reached, of_decide_eq_true tested,
    revisions_restorable "t" "p1" namedHash childlessDatabase state reached⟩

/-! ### A torn snapshot -/

def filterStage (id : String) : StageRow where
  id := id
  tenantID := "t"
  pipelineID := "p1"
  stageOrder := 1
  stageType := "filter"
  stageConfig := "\x7b\x7d"

/-- The first name with the stage that came after the second one. -/
def tornSnapshot : VersionedSnapshot :=
  { namedSnapshot "a" with stages := [filterStage "g1"] }

def tornSha256 (text : String) (index : Fin 32) : UInt8 :=
  if text = plainDocument (snapshotForHash tornSnapshot).document then
    UInt8.ofNat (0x271f2b394f3865e6c18e77f5dedae41763e42871a6cf6f1b87e319513c78b1c5 /
      256 ^ (31 - index.val))
  else namedSha256 text index

/-- The first snapshot reads the row, the row is updated and the stages are replaced, and the snapshot
reads the rest. -/
def torn : List HistoryAction :=
  [.operate (.updatePipeline (namedPipeline "a")) {}, .read 0,
    .operate (.updatePipeline (namedPipeline "b")) {},
    .operate (.replaceStages [filterStage ""]) { freshID := fun _ => "g1" }, .read 0, .read 0, .read 0,
    .publish 0 (revisionDetails "a"), .mark 0 1 "r"]

/-- A capture that an edit comes between stores a snapshot of a pipeline that never was. -/
theorem torn_mixed :
    ∃ state, Runs.Reachable (historyStep "t" "p1" (snapshotHash (plainCodec []) tornSha256))
        (.start childlessDatabase.toTables) state ∧
      (∃ revision ∈ state.revisions, revision.snapshot = some tornSnapshot.toPipelineSnapshot) ∧
      ¬ Lived "t" "p1" state.instants tornSnapshot.toPipelineSnapshot := by
  obtain ⟨state, reached, tested⟩ := Runs.exists_reaches_of_exec
    (historyStep "t" "p1" (snapshotHash (plainCodec []) tornSha256)) (fun _ _ => True)
    (.start childlessDatabase.toTables) torn
    (fun state => decide ((∃ revision ∈ state.revisions,
      revision.snapshot = some tornSnapshot.toPipelineSnapshot) ∧
      ¬ Lived "t" "p1" state.instants tornSnapshot.toPipelineSnapshot)) (by decide)
  exact ⟨state, reached, of_decide_eq_true tested⟩

end Revisions

end MqConnector
