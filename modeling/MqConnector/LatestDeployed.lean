/-
This file asks whether the latest deployed revision describes the live configuration.

`LatestDeployed` goes by the revision number. It names the live configuration as long
as the revision that is inserted last is a snapshot of what is live then, and as long
as no deploy goes back behind it. Neither is ensured.
-/

import MqConnector.RevisionHistory

namespace MqConnector

open Transfer

namespace Revisions

/-! ### The newest revision -/

section Newest

variable {tenantID pipelineID : String} {revisions : List PipelineRevision}

/-- Revisions of the pipeline, in the order of their numbers. -/
structure Numbered (tenantID pipelineID : String) (revisions : List PipelineRevision) : Prop where
  mine : ∀ revision ∈ revisions, revision.tenantID = tenantID ∧ revision.pipelineID = pipelineID
  increasing : revisions.Pairwise fun former latter => former.revisionNumber < latter.revisionNumber

theorem newest_eq_getLast? (increasing : revisions.Pairwise fun former latter =>
      former.revisionNumber < latter.revisionNumber) :
    PipelineRevision.newest revisions = revisions.getLast? := by
  induction revisions with
  | nil => rfl
  | cons revision rest hypothesis =>
    obtain ⟨below, increasingRest⟩ := List.pairwise_cons.mp increasing
    rw [PipelineRevision.newest, hypothesis increasingRest, List.getLast?_cons]
    cases last : rest.getLast? with
    | none => rfl
    | some other =>
      have higher := below other (List.mem_of_getLast? last)
      dsimp only
      rw [if_neg (Nat.lt_asymm higher)]
      rfl

theorem Numbered.ofPipeline (numbered : Numbered tenantID pipelineID revisions) :
    PipelineRevision.ofPipeline revisions tenantID pipelineID = revisions := by
  refine List.filter_eq_self.mpr fun revision member => ?_
  obtain ⟨tenant, pipeline⟩ := numbered.mine revision member
  rw [tenant, pipeline, beq_self_eq_true, beq_self_eq_true]
  rfl

/-- In numbered revisions the last is the newest one. -/
theorem Numbered.latestDeployed (numbered : Numbered tenantID pipelineID revisions)
    {revision : PipelineRevision} (last : revisions.getLast? = some revision)
    (deployed : revision.deployedAt.isSome = true) :
    PipelineRevision.latestDeployed revisions tenantID pipelineID = some revision := by
  obtain ⟨others, rfl⟩ := List.getLast?_eq_some_iff.mp last
  rw [PipelineRevision.latestDeployed, numbered.ofPipeline,
    newest_eq_getLast? (numbered.increasing.sublist List.filter_sublist), List.filter_append,
    List.filter_cons, if_pos deployed, List.filter_nil, List.getLast?_concat]

theorem Numbered.below_next (numbered : Numbered tenantID pipelineID revisions) :
    ∀ revision ∈ revisions,
      revision.revisionNumber < PipelineRevision.nextNumber revisions tenantID pipelineID := by
  intro revision member
  rw [PipelineRevision.nextNumber, numbered.ofPipeline, newest_eq_getLast? numbered.increasing]
  rcases List.eq_nil_or_concat revisions with rfl | ⟨others, last, rfl⟩
  · exact absurd member List.not_mem_nil
  · rw [List.concat_eq_append] at member numbered ⊢
    rw [List.getLast?_concat, Option.map_some, Option.getD_some]
    rcases List.mem_append.mp member with earlier | final
    · have below := (List.pairwise_append.mp numbered.increasing).2.2 revision earlier last
        (List.mem_singleton_self last)
      omega
    · rw [List.mem_singleton.mp final]
      omega

theorem Numbered.createForce (numbered : Numbered tenantID pipelineID revisions)
    (revision : PipelineRevision) (own : revision.pipelineID = pipelineID) :
    Numbered tenantID pipelineID
      (revisions ++ [PipelineRevision.createForce revisions tenantID revision]) where
  mine other member := by
    rcases List.mem_append.mp member with earlier | final
    · exact numbered.mine other earlier
    · rw [List.mem_singleton.mp final]
      exact ⟨rfl, own⟩
  increasing := by
    refine List.pairwise_append.mpr ⟨numbered.increasing, List.pairwise_singleton _ _, ?_⟩
    intro former member latter final
    rw [List.mem_singleton.mp final]
    show former.revisionNumber < PipelineRevision.nextNumber revisions tenantID revision.pipelineID
    rw [own]
    exact numbered.below_next former member

/-- What `Create` and `CreateForce` do: the last revision is the one they give the number of. It is a new
one with the snapshot, or it was there with the same hash. -/
inductive Publishes (tenantID pipelineID : String) (revisions : List PipelineRevision)
    (snapshot : PipelineSnapshot) (snapshotHash : String) (force : Bool) :
    List PipelineRevision × Nat → Prop
  | created {revision : PipelineRevision} (own : revision.pipelineID = pipelineID)
      (held : revision.snapshot = some snapshot) (hashed : revision.snapshotHash = snapshotHash) :
      Publishes tenantID pipelineID revisions snapshot snapshotHash force
        (revisions ++ [PipelineRevision.createForce revisions tenantID revision],
          (PipelineRevision.createForce revisions tenantID revision).revisionNumber)
  | found {latest : PipelineRevision} (unforced : force = false)
      (last : revisions.getLast? = some latest) (same : latest.snapshotHash = snapshotHash) :
      Publishes tenantID pipelineID revisions snapshot snapshotHash force
        (revisions, latest.revisionNumber)

theorem Numbered.published (numbered : Numbered tenantID pipelineID revisions)
    (snapshot : PipelineSnapshot) (snapshotHash : String) (force : Bool) (details : PipelineRevision) :
    Publishes tenantID pipelineID revisions snapshot snapshotHash force
      (published tenantID pipelineID revisions snapshot snapshotHash force details) := by
  unfold Revisions.published
  dsimp only
  split
  · exact .created rfl rfl rfl
  · rename_i unforced
    unfold PipelineRevision.create
    dsimp only
    rw [numbered.ofPipeline, newest_eq_getLast? numbered.increasing]
    split
    · rename_i latest last
      split
      · rename_i same
        exact .found (Bool.not_eq_true _ ▸ unforced) last (beq_iff_eq.mp same)
      · exact .created rfl rfl rfl
    · exact .created rfl rfl rfl

theorem Numbered.markDeployed (numbered : Numbered tenantID pipelineID revisions) (number : Nat)
    (now : Int) (requestID : String) :
    Numbered tenantID pipelineID
      (PipelineRevision.markDeployed revisions tenantID pipelineID number now requestID) where
  mine revision member := by
    obtain ⟨former, among, rfl⟩ := List.mem_map.mp member
    split
    · exact numbered.mine former among
    · exact numbered.mine former among
  increasing := by
    refine List.pairwise_map.mpr (numbered.increasing.imp fun {former latter} below => ?_)
    split
    · split
      · exact below
      · exact below
    · split
      · exact below
      · exact below

end Newest

/-! ### Snapshots that describe the live tables -/

section Describing

variable {tenantID pipelineID : String} {tables : Tables} {snapshot other : PipelineSnapshot}

/-- What is compared of a snapshot: everything but the ids of the children. -/
def configuration (snapshot : PipelineSnapshot) : VersionedSnapshot :=
  snapshotForHash { snapshot with }

/-- The snapshot equals what is live, up to the ids of the children. -/
def Describes (tenantID pipelineID : String) (snapshot : PipelineSnapshot) (tables : Tables) : Prop :=
  (capture tables tenantID pipelineID).map snapshotForHash = some (configuration snapshot)

/-- A snapshot as it is read: the row of the pipeline, and children in order. -/
structure Sound (tenantID pipelineID : String) (snapshot : PipelineSnapshot) : Prop where
  row : ∃ row, snapshot.pipeline = some row ∧ row.id = pipelineID ∧ row.tenantID = tenantID
  listed : Listed snapshot

/-- The parts of a snapshot that have been read. -/
def Reading.Sound (tenantID pipelineID : String) : Reading → Prop
  | .started => True
  | .pipeline row => row.id = pipelineID ∧ row.tenantID = tenantID
  | .stages row readStages => (row.id = pipelineID ∧ row.tenantID = tenantID) ∧
      Revisions.Sound tenantID pipelineID ⟨some row, readStages, [], []⟩
  | .transforms row readStages readTransforms => (row.id = pipelineID ∧ row.tenantID = tenantID) ∧
      Revisions.Sound tenantID pipelineID ⟨some row, readStages, readTransforms, []⟩

def Job.Sound (tenantID pipelineID : String) : Job → Prop
  | .reading progress => progress.Sound tenantID pipelineID
  | .publishing snapshot _ _ => Revisions.Sound tenantID pipelineID snapshot
  | .marking _ => True

theorem getPipeline_of_present (present : Present tenantID pipelineID tables) :
    ∃ row, getPipeline tables tenantID pipelineID = some row := by
  obtain ⟨old, member, mine⟩ := present
  refine Option.isSome_iff_exists.mp (List.find?_isSome.mpr ⟨old, member, decide_eq_true mine⟩)

theorem getPipeline_mine {row : Pipeline}
    (found : getPipeline tables tenantID pipelineID = some row) :
    row.id = pipelineID ∧ row.tenantID = tenantID := by
  have passes := List.find?_some found
  exact of_decide_eq_true passes

theorem describes_written {around : ApplySurround} {row : Pipeline}
    (present : Present tenantID pipelineID tables) (sound : Sound tenantID pipelineID snapshot)
    (held : snapshot.pipeline = some row) :
    Describes tenantID pipelineID snapshot
      (written around tenantID pipelineID row snapshot tables) := by
  obtain ⟨other, same, rfl, rfl⟩ := sound.row
  obtain rfl : row = other := Option.some.inj (held.symm.trans same)
  unfold Describes configuration
  rw [capture_written present sound.listed, Option.map_some]
  unfold snapshotForHash rewritten
  dsimp only
  rw [held, map_placed, map_placed, map_placed]
  · exact fun _ _ _ => rfl
  · exact fun _ _ _ => rfl
  · intro stage member index
    unfold bareStage placeStage
    dsimp only
    rw [if_neg (sound.listed.configured stage member)]

theorem Reading.Sound.next {hash : VersionedSnapshot → String} {progress : Reading} {job : Job}
    (configured : Configured tables) (sound : progress.Sound tenantID pipelineID)
    (read : progress.next tenantID pipelineID hash tables = some job) :
    job.Sound tenantID pipelineID := by
  cases progress with
  | started =>
    obtain ⟨row, found, rfl⟩ := Option.map_eq_some_iff.mp read
    exact getPipeline_mine found
  | pipeline row =>
    obtain rfl := Option.some.inj read
    refine ⟨sound, ⟨row, rfl, sound⟩, ?_, ?_, List.Pairwise.nil, List.Pairwise.nil⟩
    · exact pairwise_sorted (fun child : StageRow => child.stageOrder) _
    · intro stage member
      exact configured stage (List.mem_filter.mp ((List.mem_insertionSort _).mp member)).1
  | stages row readStages =>
    obtain rfl := Option.some.inj read
    obtain ⟨mine, -, listed⟩ := sound
    exact ⟨mine, ⟨row, rfl, mine⟩, listed.stages, listed.configured,
      pairwise_sorted (fun child : Transform => child.order) _, List.Pairwise.nil⟩
  | transforms row readStages readTransforms =>
    obtain rfl := Option.some.inj read
    obtain ⟨mine, -, listed⟩ := sound
    exact ⟨⟨row, rfl, mine⟩, listed.stages, listed.configured, listed.transforms,
      pairwise_sorted (fun child : RoutingRule => child.priority) _⟩

end Describing

/-! ### The condition -/

section Condition

variable (tenantID pipelineID : String) (state : HistoryState)

/-- The snapshot of the newest revision. -/
def HistoryState.newest : Option PipelineSnapshot :=
  state.revisions.getLast?.bind fun revision => revision.snapshot

/-- A job other than this one is still to insert a revision. -/
def OtherPending (index : Nat) : Prop :=
  (state.jobs.eraseIdx index).any Job.publishes = true

/-- The newest revision describes what is live. -/
def NewestDescribes : Prop :=
  ∃ snapshot ∈ state.newest, Describes tenantID pipelineID snapshot state.tables

/-- A deploy does not go back behind the newest revision, unless another revision is to follow. -/
def DeploysNewest (number : Nat) : Prop :=
  state.jobs.any Job.publishes = true ∨
    ∃ found ∈ target tenantID pipelineID state.revisions number, ∃ snapshot ∈ state.newest,
      configuration snapshot = configuration found.2

/-- The snapshot the job is to insert describes what is live, and its hash does not collide with that of
the newest revision. -/
def InsertsLive : Option Job → Prop
  | some (.publishing snapshot snapshotHash force) =>
    Describes tenantID pipelineID snapshot state.tables ∧ (force = true ∨
      ∀ latest ∈ state.revisions.getLast?, latest.snapshotHash = snapshotHash →
        ∃ held ∈ latest.snapshot, configuration held = configuration snapshot)
  | _ => True

/-- The last revision to be inserted describes what is live. -/
def PublishesLive (index : Nat) : Prop :=
  OtherPending state index ∨ InsertsLive tenantID pipelineID state state.jobs[index]?

/-- The job is not needed: a mark other than the only one of the newest revision, or a snapshot that
another one follows or that would describe what the newest revision describes. -/
def Spare (index : Nat) : Option Job → Prop
  | some (.marking number) =>
    ∀ latest ∈ state.revisions.getLast?, latest.revisionNumber = number →
      latest.deployedAt.isSome = true ∨ Job.marking number ∈ state.jobs.eraseIdx index
  | _ => OtherPending state index ∨ NewestDescribes tenantID pipelineID state

/-- The condition on the steps of a run. -/
def Careful (state : HistoryState) : HistoryAction → Prop
  | .operate (.deploy number) _ => DeploysNewest tenantID pipelineID state number
  | .publish index _ => PublishesLive tenantID pipelineID state index
  | .abandon index => Spare tenantID pipelineID state index state.jobs[index]?
  | _ => True

end Condition

section Decidable

variable (tenantID pipelineID : String) (state : HistoryState)

instance (snapshot : PipelineSnapshot) (tables : Tables) :
    Decidable (Describes tenantID pipelineID snapshot tables) :=
  inferInstanceAs (Decidable (_ = _))

instance (index : Nat) : Decidable (OtherPending state index) :=
  inferInstanceAs (Decidable (_ = true))

instance : Decidable (NewestDescribes tenantID pipelineID state) :=
  inferInstanceAs (Decidable (∃ snapshot ∈ state.newest, _))

instance (number : Nat) : Decidable (DeploysNewest tenantID pipelineID state number) :=
  inferInstanceAs (Decidable (_ ∨ ∃ found ∈ target tenantID pipelineID state.revisions number,
    ∃ snapshot ∈ state.newest, _))

instance : (job : Option Job) → Decidable (InsertsLive tenantID pipelineID state job)
  | some (.publishing _ _ _) => inferInstanceAs (Decidable (_ ∧ (_ ∨ ∀ latest ∈ _, _ → ∃ held ∈ _, _)))
  | some (.reading _) => instDecidableTrue
  | some (.marking _) => instDecidableTrue
  | none => instDecidableTrue

instance (index : Nat) : Decidable (PublishesLive tenantID pipelineID state index) :=
  inferInstanceAs (Decidable (_ ∨ _))

instance (index : Nat) : (job : Option Job) → Decidable (Spare tenantID pipelineID state index job)
  | some (.marking _) => inferInstanceAs (Decidable (∀ latest ∈ state.revisions.getLast?, _ → _ ∨ _))
  | some (.reading _) => inferInstanceAs (Decidable (_ ∨ _))
  | some (.publishing _ _ _) => inferInstanceAs (Decidable (_ ∨ _))
  | none => inferInstanceAs (Decidable (_ ∨ _))

instance : (action : HistoryAction) → Decidable (Careful tenantID pipelineID state action)
  | .operate (.deploy number) _ =>
    inferInstanceAs (Decidable (DeploysNewest tenantID pipelineID state number))
  | .operate (.updatePipeline _) _ => instDecidableTrue
  | .operate (.replaceStages _) _ => instDecidableTrue
  | .operate (.replaceTransforms _) _ => instDecidableTrue
  | .operate (.replaceRoutingRules _) _ => instDecidableTrue
  | .operate (.rollback _) _ => instDecidableTrue
  | .read _ => instDecidableTrue
  | .publish index _ => inferInstanceAs (Decidable (PublishesLive tenantID pipelineID state index))
  | .mark _ _ _ => instDecidableTrue
  | .abandon index => inferInstanceAs (Decidable (Spare tenantID pipelineID state index _))

end Decidable

/-! ### The invariant -/

/-- What careful steps keep. -/
structure Kept (tenantID pipelineID : String) (state : HistoryState) : Prop where
  present : Present tenantID pipelineID state.tables
  configured : Configured state.tables
  numbered : Numbered tenantID pipelineID state.revisions
  revisions : ∀ revision ∈ state.revisions, ∃ snapshot, revision.snapshot = some snapshot ∧
    Sound tenantID pipelineID snapshot
  jobs : ∀ job ∈ state.jobs, job.Sound tenantID pipelineID
  current : state.jobs.any Job.publishes = false → 1 < state.instants.length →
    NewestDescribes tenantID pipelineID state
  marked : ∀ revision ∈ state.revisions.getLast?, revision.deployedAt.isSome = true ∨
    Job.marking revision.revisionNumber ∈ state.jobs

section Jobs

variable {jobs : List Job} {index : Nat} {old : Job}

theorem any_set (there : jobs[index]? = some old) (job : Job) :
    (jobs.set index job).any Job.publishes =
      (job.publishes || (jobs.eraseIdx index).any Job.publishes) := by
  induction jobs generalizing index with
  | nil => exact absurd there.symm (Option.some_ne_none _)
  | cons first rest hypothesis =>
    cases index with
    | zero => rfl
    | succ index =>
      rw [List.set_cons_succ, List.any_cons, hypothesis there, List.eraseIdx_cons_succ,
        List.any_cons, Bool.or_left_comm]

theorem any_of_getElem? (there : jobs[index]? = some old) :
    jobs.any Job.publishes = (old.publishes || (jobs.eraseIdx index).any Job.publishes) := by
  obtain ⟨inside, same⟩ := List.getElem?_eq_some_iff.mp there
  rw [← any_set there old, ← same, List.set_getElem_self]

theorem mem_set_of_ne (there : jobs[index]? = some old) {job kept : Job} (member : kept ∈ jobs)
    (different : kept ≠ old) : kept ∈ jobs.set index job := by
  obtain ⟨place, found⟩ := List.mem_iff_getElem?.mp member
  have apart : index ≠ place := by
    rintro rfl
    exact different (Option.some.inj (found.symm.trans there))
  refine List.mem_iff_getElem?.mpr ⟨place, ?_⟩
  rw [List.getElem?_set_ne apart]
  exact found

theorem mem_eraseIdx_of_ne (there : jobs[index]? = some old) {kept : Job} (member : kept ∈ jobs)
    (different : kept ≠ old) : kept ∈ jobs.eraseIdx index := by
  obtain ⟨place, found⟩ := List.mem_iff_getElem?.mp member
  refine List.mem_eraseIdx_iff_getElem?.mpr ⟨place, ?_, found⟩
  rintro rfl
  exact different (Option.some.inj (found.symm.trans there))

end Jobs

section Steps

variable {tenantID pipelineID : String} {hash : VersionedSnapshot → String} {state : HistoryState}

theorem Kept.operate (kept : Kept tenantID pipelineID state) {operation : Operation}
    {around : ApplySurround} {after : Tables} {job : Job}
    (careful : Careful tenantID pipelineID state (.operate operation around))
    (ran : operation.run tenantID pipelineID around state = some (after, job)) :
    Kept tenantID pipelineID { state with
      tables := after
      jobs := state.jobs ++ [job]
      instants := state.instants ++ [after] } := by
  have soundOf : ∀ {number revision snapshot},
      target tenantID pipelineID state.revisions number = some (revision, snapshot) →
        Sound tenantID pipelineID snapshot := by
    intro number revision snapshot found
    obtain ⟨member, held⟩ := target_eq_some found
    obtain ⟨other, same, sound⟩ := kept.revisions revision member
    obtain rfl : snapshot = other := Option.some.inj (held.symm.trans same)
    exact sound
  have writtenPresent : ∀ {row : Pipeline} {snapshot : PipelineSnapshot},
      Present tenantID pipelineID state.tables →
        Present tenantID pipelineID (written around tenantID pipelineID row snapshot state.tables) :=
    fun present => present_updated present rfl
  have marked : ∀ revision ∈ state.revisions.getLast?, revision.deployedAt.isSome = true ∨
      Job.marking revision.revisionNumber ∈ state.jobs ++ [job] := fun revision last =>
    (kept.marked revision last).imp_right (List.mem_append_left _)
  have jobs : job.Sound tenantID pipelineID → ∀ other ∈ state.jobs ++ [job],
      other.Sound tenantID pipelineID := by
    intro sound other member
    rcases List.mem_append.mp member with earlier | final
    · exact kept.jobs other earlier
    · exact List.mem_singleton.mp final ▸ sound
  -- unless it is a deploy, the operation is followed by a revision
  have pending : job.publishes = true → (state.jobs ++ [job]).any Job.publishes = true := by
    intro publishes
    rw [List.any_append, List.any_cons, publishes, Bool.true_or, Bool.or_true]
  have configured : Configured after := (operation.leaves ran).configured kept.configured
  cases operation.leaves ran with
  | saved present _ =>
    refine ⟨present kept.present, configured, kept.numbered, kept.revisions,
      jobs trivial, fun none => ?_, marked⟩
    exact absurd (none.symm.trans (pending rfl)) Bool.false_ne_true
  | rolledBack found held present live =>
    subst live
    refine ⟨writtenPresent kept.present, configured, kept.numbered,
      kept.revisions, jobs (soundOf found), fun none => ?_, marked⟩
    exact absurd (none.symm.trans (pending rfl)) Bool.false_ne_true
  | deployed found held present live =>
    subst live
    refine ⟨writtenPresent kept.present, configured, kept.numbered,
      kept.revisions, jobs trivial, fun none _ => ?_, marked⟩
    have before : state.jobs.any Job.publishes = false := by
      rw [List.any_append, Bool.or_eq_false_iff] at none
      exact none.1
    rcases careful with pending | ⟨other, known, newest, last, same⟩
    · exact absurd (before.symm.trans pending) Bool.false_ne_true
    · obtain rfl : other = (_, _) := Option.some.inj (known.symm.trans found)
      refine ⟨newest, last, ?_⟩
      unfold Describes
      rw [same]
      exact describes_written present (soundOf found) held

theorem Kept.read (kept : Kept tenantID pipelineID state) {index : Nat} {progress : Reading} {job : Job}
    (there : state.jobs[index]? = some (.reading progress))
    (read : progress.next tenantID pipelineID hash state.tables = some job) :
    Kept tenantID pipelineID { state with jobs := state.jobs.set index job } := by
  have publishes : job.publishes = true := by
    cases progress with
    | started =>
      obtain ⟨row, -, rfl⟩ := Option.map_eq_some_iff.mp read
      rfl
    | pipeline row => exact Option.some.inj read ▸ rfl
    | stages row readStages => exact Option.some.inj read ▸ rfl
    | transforms row readStages readTransforms => exact Option.some.inj read ▸ rfl
  have sound : job.Sound tenantID pipelineID :=
    Reading.Sound.next kept.configured (kept.jobs _ (List.mem_of_getElem? there)) read
  refine ⟨kept.present, kept.configured, kept.numbered, kept.revisions, ?_, fun none => ?_, ?_⟩
  · intro other member
    rcases List.mem_or_eq_of_mem_set member with earlier | rfl
    · exact kept.jobs other earlier
    · exact sound
  · have pending : (state.jobs.set index job).any Job.publishes = true := by
      rw [any_set there, publishes, Bool.true_or]
    exact absurd (none.symm.trans pending) Bool.false_ne_true
  · intro revision last
    refine (kept.marked revision last).imp_right fun member => ?_
    exact mem_set_of_ne there member fun same => nomatch same

theorem Publishes.sound {revisions : List PipelineRevision} {snapshot : PipelineSnapshot}
    {snapshotHash : String} {force : Bool} {after : List PipelineRevision × Nat}
    (publishes : Publishes tenantID pipelineID revisions snapshot snapshotHash force after)
    (sound : Sound tenantID pipelineID snapshot)
    (before : ∀ revision ∈ revisions, ∃ snapshot, revision.snapshot = some snapshot ∧
      Sound tenantID pipelineID snapshot) :
    ∀ revision ∈ after.1, ∃ snapshot, revision.snapshot = some snapshot ∧
      Sound tenantID pipelineID snapshot := by
  cases publishes with
  | created own held hashed =>
    intro revision member
    rcases List.mem_append.mp member with earlier | final
    · exact before revision earlier
    · rw [List.mem_singleton.mp final]
      exact ⟨snapshot, held, sound⟩
  | found unforced last same => exact before

theorem Publishes.numbered {snapshot : PipelineSnapshot} {snapshotHash : String} {force : Bool}
    {revisions : List PipelineRevision} {after : List PipelineRevision × Nat}
    (publishes : Publishes tenantID pipelineID revisions snapshot snapshotHash force after)
    (before : Numbered tenantID pipelineID revisions) : Numbered tenantID pipelineID after.1 := by
  cases publishes with
  | created own held hashed => exact before.createForce _ own
  | found unforced last same => exact before

theorem Publishes.number {snapshot : PipelineSnapshot} {snapshotHash : String} {force : Bool}
    {revisions : List PipelineRevision} {after : List PipelineRevision × Nat}
    (publishes : Publishes tenantID pipelineID revisions snapshot snapshotHash force after) :
    ∀ revision ∈ after.1.getLast?, revision.revisionNumber = after.2 := by
  intro revision last
  cases publishes with
  | created own held hashed =>
    rw [List.getLast?_concat] at last
    rw [← Option.some.inj last]
  | found unforced latest same => rw [Option.some.inj (latest.symm.trans last)]

theorem Kept.publish (kept : Kept tenantID pipelineID state) {index : Nat} {snapshot : PipelineSnapshot}
    {snapshotHash : String} {force : Bool} {after : List PipelineRevision × Nat}
    (careful : PublishesLive tenantID pipelineID state index)
    (there : state.jobs[index]? = some (.publishing snapshot snapshotHash force))
    (publishes :
      Publishes tenantID pipelineID state.revisions snapshot snapshotHash force after) :
    Kept tenantID pipelineID { state with
      revisions := after.1
      jobs := state.jobs.set index (.marking after.2) } := by
  have sound : Sound tenantID pipelineID snapshot := kept.jobs _ (List.mem_of_getElem? there)
  have inside : index < state.jobs.length := (List.getElem?_eq_some_iff.mp there).1
  refine ⟨kept.present, kept.configured, publishes.numbered kept.numbered,
    publishes.sound sound kept.revisions, ?_, ?_, ?_⟩
  · intro job member
    rcases List.mem_or_eq_of_mem_set member with earlier | rfl
    · exact kept.jobs job earlier
    · exact trivial
  · intro none _
    have alone : (state.jobs.eraseIdx index).any Job.publishes = false := by
      rw [any_set there, Bool.or_eq_false_iff] at none
      exact none.2
    rcases careful with pending | live
    · exact absurd (alone.symm.trans pending) Bool.false_ne_true
    rw [there] at live
    obtain ⟨describes, apart⟩ := live
    cases publishes with
    | created own held hashed =>
      refine ⟨snapshot, ?_, describes⟩
      unfold HistoryState.newest
      rw [List.getLast?_concat]
      exact held
    | found unforced last same =>
      have free := apart.resolve_left (unforced ▸ Bool.false_ne_true)
      obtain ⟨held, stored, equal⟩ := free _ last same
      refine ⟨held, ?_, ?_⟩
      · unfold HistoryState.newest
        rw [last]
        exact stored
      · unfold Describes
        rw [equal]
        exact describes
  · intro revision last
    right
    rw [publishes.number revision last]
    exact List.mem_set inside _

theorem Kept.mark (kept : Kept tenantID pipelineID state) {index number : Nat} {now : Int}
    {requestID : String} (there : state.jobs[index]? = some (.marking number)) :
    Kept tenantID pipelineID { state with
      revisions := PipelineRevision.markDeployed state.revisions tenantID pipelineID number now requestID
      jobs := state.jobs.eraseIdx index } := by
  have snapshots : ∀ revision : PipelineRevision,
      (if Owned.named tenantID (pipelineID, number) revision then
        { revision with
          deployedAt := some (revision.deployedAt.getD now)
          deployRequestID := if revision.deployRequestID == "" then requestID
            else revision.deployRequestID }
        else revision).snapshot = revision.snapshot := by
    intro revision
    split
    · rfl
    · rfl
  refine ⟨kept.present, kept.configured, kept.numbered.markDeployed number now requestID, ?_, ?_, ?_, ?_⟩
  · intro revision member
    obtain ⟨former, among, rfl⟩ := List.mem_map.mp member
    rw [snapshots]
    exact kept.revisions former among
  · exact fun job member => kept.jobs job (List.mem_of_mem_eraseIdx member)
  · intro none operated
    have before : state.jobs.any Job.publishes = false := by
      rw [any_of_getElem? there]
      exact none
    obtain ⟨newest, last, describes⟩ := kept.current before operated
    refine ⟨newest, ?_, describes⟩
    obtain ⟨revision, final, held⟩ := Option.bind_eq_some_iff.mp last
    show (PipelineRevision.markDeployed ..).getLast?.bind _ = _
    rw [PipelineRevision.markDeployed, Owned.update, List.getLast?_map, final]
    exact (snapshots revision).trans held
  · intro revision last
    have mapped : (PipelineRevision.markDeployed state.revisions tenantID pipelineID number now
      requestID).getLast? = some revision := last
    rw [PipelineRevision.markDeployed, Owned.update, List.getLast?_map] at mapped
    obtain ⟨former, final, rfl⟩ := Option.map_eq_some_iff.mp mapped
    split
    · exact Or.inl rfl
    · rename_i other
      refine (kept.marked former final).imp_right fun member => ?_
      refine mem_eraseIdx_of_ne there member fun same => other ?_
      obtain ⟨tenant, pipeline⟩ := kept.numbered.mine former (List.mem_of_getLast? final)
      refine (Owned.named_iff _ _ _).mpr ⟨?_, tenant⟩
      exact Prod.ext pipeline (Job.marking.inj same)

theorem Kept.abandon (kept : Kept tenantID pipelineID state) {index : Nat}
    (careful : Careful tenantID pipelineID state (.abandon index)) (inside : index < state.jobs.length) :
    Kept tenantID pipelineID { state with jobs := state.jobs.eraseIdx index } := by
  have there : state.jobs[index]? = some state.jobs[index] := List.getElem?_eq_getElem inside
  have spare : Spare tenantID pipelineID state index state.jobs[index]? := careful
  refine ⟨kept.present, kept.configured, kept.numbered, kept.revisions, ?_, ?_, ?_⟩
  · exact fun job member => kept.jobs job (List.mem_of_mem_eraseIdx member)
  · intro none operated
    have alone : (state.jobs.eraseIdx index).any Job.publishes = false := none
    unfold Spare at spare
    split at spare
    · rename_i number found
      refine kept.current ?_ operated
      rw [any_of_getElem? found]
      exact alone
    · rcases spare with pending | describes
      · exact absurd (alone.symm.trans pending) Bool.false_ne_true
      · exact describes
  · intro revision last
    rcases kept.marked revision last with deployed | member
    · exact Or.inl deployed
    · unfold Spare at spare
      split at spare
      · rename_i number found
        by_cases same : revision.revisionNumber = number
        · rw [same]
          exact spare revision last same
        · exact Or.inr (mem_eraseIdx_of_ne found member fun equal => same (Job.marking.inj equal))
      · rename_i other
        refine Or.inr (mem_eraseIdx_of_ne there member fun equal => ?_)
        exact other revision.revisionNumber (there.trans (congrArg some equal.symm))

theorem Reading.next_ne_none (present : Present tenantID pipelineID state.tables) (progress : Reading) :
    progress.next tenantID pipelineID hash state.tables ≠ none := by
  cases progress with
  | started =>
    obtain ⟨row, found⟩ := getPipeline_of_present present
    rw [Reading.next, found]
    exact Option.some_ne_none _
  | pipeline row => exact Option.some_ne_none _
  | stages row readStages => exact Option.some_ne_none _
  | transforms row readStages readTransforms => exact Option.some_ne_none _

/-- Every careful step keeps the invariant. -/
theorem Kept.step (kept : Kept tenantID pipelineID state) {action : HistoryAction} {after : HistoryState}
    (careful : Careful tenantID pipelineID state action)
    (fired : historyStep tenantID pipelineID hash state action = some after) :
    Kept tenantID pipelineID after := by
  cases historyStep_steps fired with
  | operated ran => exact kept.operate careful ran
  | read there next => exact kept.read there next
  | gone there absent => exact absurd absent (Reading.next_ne_none kept.present _)
  | published there => exact kept.publish careful there (kept.numbered.published _ _ _ _)
  | marked there => exact kept.mark there
  | abandoned inside => exact kept.abandon careful inside

end Steps

/-! ### The latest deployed revision -/

/-- There is a latest deployed revision, and its snapshot describes what is live. -/
def CurrentDescribes (tenantID pipelineID : String) (state : HistoryState) : Prop :=
  ∃ revision ∈ PipelineRevision.latestDeployed state.revisions tenantID pipelineID,
    ∃ snapshot ∈ revision.snapshot, Describes tenantID pipelineID snapshot state.tables

instance (tenantID pipelineID : String) (state : HistoryState) :
    Decidable (CurrentDescribes tenantID pipelineID state) :=
  inferInstanceAs (Decidable (∃ revision ∈ PipelineRevision.latestDeployed _ _ _,
    ∃ snapshot ∈ PipelineRevision.snapshot revision, _))

theorem Kept.start {tenantID pipelineID : String} (database : Database)
    (present : Present tenantID pipelineID database.toTables) :
    Kept tenantID pipelineID (.start database.toTables) where
  present := present
  configured := database.configured
  numbered := ⟨fun _ member => absurd member List.not_mem_nil, List.Pairwise.nil⟩
  revisions _ member := absurd member List.not_mem_nil
  jobs _ member := absurd member List.not_mem_nil
  current _ operated := absurd operated (Nat.lt_irrefl 1)
  marked _ last := absurd last.symm (Option.some_ne_none _)

/-- In every careful run, once nothing is left to be done for the operations so far, the latest deployed
revision describes what is live. -/
theorem latestDeployed_describes (tenantID pipelineID : String) (hash : VersionedSnapshot → String)
    (database : Database) (present : Present tenantID pipelineID database.toTables) (state : HistoryState)
    (reached : Runs.Reaches (historyStep tenantID pipelineID hash) (Careful tenantID pipelineID)
      (.start database.toTables) state)
    (finished : state.jobs = []) (operated : 1 < state.instants.length) :
    CurrentDescribes tenantID pipelineID state := by
  have kept : Kept tenantID pipelineID state :=
    reached.invariant (Kept tenantID pipelineID) (Kept.start database present)
      fun _ _ _ before careful fired => before.step careful fired
  have none : state.jobs.any Job.publishes = false := by
    rw [finished]
    rfl
  obtain ⟨snapshot, newest, describes⟩ := kept.current none operated
  obtain ⟨revision, last, held⟩ := Option.bind_eq_some_iff.mp newest
  have deployed : revision.deployedAt.isSome = true := by
    refine (kept.marked revision last).resolve_right fun marking => ?_
    rw [finished] at marking
    exact absurd marking List.not_mem_nil
  exact ⟨revision, kept.numbered.latestDeployed last deployed, snapshot, held, describes⟩

/-! ### Two runs -/

def namedPipeline (name : String) : Pipeline where
  id := "p1"
  tenantID := "t"
  name := name
  sourceID := "c1"
  destinationID := "c2"

def namedSnapshot (name : String) : VersionedSnapshot where
  pipeline := some (namedPipeline name)
  stages := []
  transforms := []
  routingRules := []

def childlessDatabase : Database :=
  { sampleDatabase "" false 0 with
    pipelines := [namedPipeline "new"]
    stages := []
    transforms := []
    routingRules := []
    outputFormats := by decide
    stageTypes := by simp
    configured := by simp
    transformTypes := by simp
    conditionOperators := by simp }

/-- SHA-256 on the texts the two snapshots are hashed by. -/
def namedSha256 (text : String) (index : Fin 32) : UInt8 :=
  if text = plainDocument (snapshotForHash (namedSnapshot "a")).document then
    UInt8.ofNat (0x3e8c22b1fa573fa6542badc7bf02c214229859fc209e7dbdecd3e43913780d2e /
      256 ^ (31 - index.val))
  else if text = plainDocument (snapshotForHash (namedSnapshot "b")).document then
    UInt8.ofNat (0x88291c4263b9d6cea412fc5945bf2eaf6fe59cf2e666c3a35d92068b8960f569 /
      256 ^ (31 - index.val))
  else 0

def namedHash : VersionedSnapshot → String :=
  snapshotHash (plainCodec []) namedSha256

/-- The details of a revision that the snapshot does not decide. -/
def revisionDetails (id : String) : PipelineRevision where
  id := id
  tenantID := "t"
  pipelineID := "p1"
  revisionNumber := 0
  snapshot := none
  snapshotHash := ""
  authorSub := "u"
  authorUsername := "user"
  changeSummary := "update"

/-- A save of the pipeline under a name, and everything that follows it. -/
def savedAs (name : String) : List HistoryAction :=
  [.operate (.updatePipeline (namedPipeline name)) {}, .read 0, .read 0, .read 0, .read 0,
    .publish 0 (revisionDetails name), .mark 0 1 "r"]

/-- A save, a deploy of what it left, and a rollback to it. -/
def promoted : List HistoryAction :=
  savedAs "a" ++ [.operate (.deploy 1) {}, .mark 0 2 "r", .operate (.rollback 1) {},
    .publish 0 (revisionDetails "rollback"), .mark 0 3 "r"]

/-- After a deployment and a promotion the current snapshot describes the pipeline. -/
theorem promoted_describes :
    ∃ state, Runs.Reaches (historyStep "t" "p1" namedHash) (Careful "t" "p1")
        (.start childlessDatabase.toTables) state ∧
      (state.jobs = [] ∧ state.revisions.length = 2) ∧ CurrentDescribes "t" "p1" state := by
  obtain ⟨state, reached, tested⟩ := Runs.exists_reaches_of_exec (historyStep "t" "p1" namedHash)
    (Careful "t" "p1") (.start childlessDatabase.toTables) promoted
    (fun state => decide (state.jobs = [] ∧ state.revisions.length = 2 ∧ 1 < state.instants.length))
    (by decide)
  obtain ⟨finished, two, operated⟩ := of_decide_eq_true tested
  refine ⟨state, reached, ⟨finished, two⟩, ?_⟩
  refine latestDeployed_describes "t" "p1" namedHash childlessDatabase ?_ state reached finished operated
  exact ⟨namedPipeline "new", List.mem_singleton_self _, rfl, rfl⟩

/-- Two saves, and a deploy of what the first one left. -/
def demoted : List HistoryAction :=
  savedAs "a" ++ savedAs "b" ++ [.operate (.deploy 1) {}, .mark 0 2 "r"]

/-- Two saves whose snapshots are inserted in the other order. -/
def overtaken : List HistoryAction :=
  [.operate (.updatePipeline (namedPipeline "a")) {}, .read 0, .read 0, .read 0, .read 0,
    .operate (.updatePipeline (namedPipeline "b")) {}, .read 1, .read 1, .read 1, .read 1,
    .publish 1 (revisionDetails "b"), .mark 1 1 "r", .publish 0 (revisionDetails "a"), .mark 0 2 "r"]

/-- Nothing is left to be done, and the latest deployed revision is another configuration than the live
one. -/
def Stale (state : HistoryState) : Prop :=
  state.jobs = [] ∧ 1 < state.instants.length ∧ ¬ CurrentDescribes "t" "p1" state

instance (state : HistoryState) : Decidable (Stale state) :=
  inferInstanceAs (Decidable (_ ∧ _ ∧ _))

/-- The first run ends with the second revision as the latest deployed one and the first one live, the
other run with the first save as the latest deployed one and the second one live. -/
theorem latestDeployed_stale :
    (∃ state, Runs.Reachable (historyStep "t" "p1" namedHash) (.start childlessDatabase.toTables) state ∧
      Stale state ∧ state.tables.pipelines = [namedPipeline "a"]) ∧
    ∃ state, Runs.Reachable (historyStep "t" "p1" namedHash) (.start childlessDatabase.toTables) state ∧
      Stale state ∧ state.tables.pipelines = [namedPipeline "b"] := by
  constructor
  · obtain ⟨state, reached, tested⟩ := Runs.exists_reaches_of_exec (historyStep "t" "p1" namedHash)
      (fun _ _ => True) (.start childlessDatabase.toTables) demoted
      (fun state => decide (Stale state ∧ state.tables.pipelines = [namedPipeline "a"]))
      (by decide +kernel)
    exact ⟨state, reached, of_decide_eq_true tested⟩
  · obtain ⟨state, reached, tested⟩ := Runs.exists_reaches_of_exec (historyStep "t" "p1" namedHash)
      (fun _ _ => True) (.start childlessDatabase.toTables) overtaken
      (fun state => decide (Stale state ∧ state.tables.pipelines = [namedPipeline "b"]))
      (by decide +kernel)
    exact ⟨state, reached, of_decide_eq_true tested⟩

end Revisions

end MqConnector
