/-
This file asks whether the archiver can lose a row.

"A crash between fsync and DELETE produces duplicate records in the archive, never
lost ones". Three things break it. A sweep syncs the files of all its days but looks
at the answer for the last one only. A file is put in place of the day's object
whatever the object holds, and after `deleteAfterUpload` the file may hold less. And
the next row is written onto a line that a failed write cut short.
-/

import MqConnector.Archive

namespace MqConnector

namespace ArchiveState

open Lines

variable {config : ArchiveConfig} {state after : ArchiveState} {label : ArchiveLabel}

/-! ### Where a row is -/

def IsLine (config : ArchiveConfig) (row : AuditRow) (content : List Char) : Prop :=
  ∃ text, config.codec.marshal row = some text ∧ text ∈ lines '\n' content

/-- The row is in the table, on a complete line of its day's file, or in its day's object. -/
def Present (config : ArchiveConfig) (state : ArchiveState) (row : AuditRow) : Prop :=
  row ∈ state.table ∨ IsLine config row (state.files row.day).content ∨
    IsLine config row (state.objects row.day)

/-- The row is on a line that was synced, or in its day's object. -/
def Safe (config : ArchiveConfig) (state : ArchiveState) (row : AuditRow) : Prop :=
  IsLine config row (state.files row.day).synced ∨ IsLine config row (state.objects row.day)

def OnOpenFile (config : ArchiveConfig) (state : ArchiveState) (row : AuditRow) : Prop :=
  state.openFile = some row.day ∧ IsLine config row (state.files row.day).content

/-- The rows a sweep has not come to. -/
def left : ArchivePhase → List AuditRow
  | .rows _ left _ | .closed _ left _ _ | .uploaded _ left _ _ => left
  | .idle | .written _ | .synced _ => []

def closedDay : ArchivePhase → Option Int
  | .closed _ _ _ day => some day
  | _ => none

/-- The condition on a step: a file that is closed with something unsynced is synced, the file that
replaces an object holds every line of it, and a row is written where a line has ended. -/
def Careful (state : ArchiveState) : ArchiveLabel → Prop
  | .close synced => ∀ day ∈ state.openFile, synced = true ∨ (state.files day).pending = []
  | .upload read stored _ => ∀ day ∈ closedDay state.phase, read = true → stored = true →
      (state.files day).content ≠ [] → ∀ text ∈ lines '\n' (state.objects day),
        text ∈ lines '\n' (state.files day).content
  | .write => ∀ day ∈ state.openFile, EndsLine '\n' (state.files day).content
  | _ => True

instance (state : ArchiveState) : (label : ArchiveLabel) → Decidable (state.Careful label)
  | .close _ => inferInstanceAs (Decidable (∀ day ∈ state.openFile, _))
  | .upload _ _ _ => inferInstanceAs (Decidable (∀ day ∈ closedDay state.phase, _))
  | .write => inferInstanceAs (Decidable (∀ day ∈ state.openFile, _))
  | .insert _ | .start _ _ | .iterError | .remove _ | .openFile _ | .writeError _ | .finish
  | .sync _ | .deleteOlderThan _ | .stop _ | .crash => isTrue trivial

/-! ### The invariant -/

/-- Every row is in the table or safe. During a sweep the rows before the cut-off are still to come,
safe, or on the open file, and before the delete all of them are safe. -/
structure Kept (config : ArchiveConfig) (state : ArchiveState) : Prop where
  stored : ∀ row ∈ state.inserted, row ∈ state.table ∨ state.Safe config row
  handled : ∀ cutoff ∈ state.phase.cutoff, ∀ row ∈ state.table, row.instant < cutoff →
    row ∈ left state.phase ∨ state.Safe config row ∨ state.OnOpenFile config row
  flushed : ∀ cutoff, state.phase = .synced cutoff → ∀ row ∈ state.table, row.instant < cutoff →
    state.Safe config row
  uploaded : ∀ cutoff rows count day, state.phase = .uploaded cutoff rows count day →
    state.objects day = (state.files day).content

theorem initial_kept : Kept config {} where
  stored _ member := absurd member List.not_mem_nil
  handled _ member := nomatch member
  flushed _ phase := nomatch phase
  uploaded _ _ _ _ phase := nomatch phase

theorem Kept.end (kept : state.Kept config) (idle : after.phase = .idle)
    (table : after.table = state.table) (inserted : after.inserted = state.inserted)
    (secures : ∀ row, state.Safe config row → after.Safe config row) : after.Kept config := by
  refine ⟨?_, ?_, ?_, ?_⟩
  · intro row member
    rw [inserted] at member
    rw [table]
    exact (kept.stored row member).imp_right (secures row)
  · intro cutoff found
    rw [idle] at found
    exact nomatch found
  · intro cutoff phase
    exact nomatch idle.symm.trans phase
  · intro cutoff rows count day phase
    exact nomatch idle.symm.trans phase

theorem Kept.sweep (kept : state.Kept config) (cutoff : Int)
    (before : state.phase.cutoff = some cutoff) (now : after.phase.cutoff = some cutoff) (table : after.table = state.table)
    (inserted : after.inserted = state.inserted)
    (secures : ∀ row, state.Safe config row → after.Safe config row)
    (comes : ∀ row ∈ left state.phase, row ∈ left after.phase ∨ after.OnOpenFile config row)
    (stays : ∀ row, state.OnOpenFile config row →
      after.Safe config row ∨ after.OnOpenFile config row)
    (flushed : ∀ cutoff, after.phase = .synced cutoff → ∀ row ∈ state.table, row.instant < cutoff →
      after.Safe config row)
    (uploaded : ∀ cutoff rows count day, after.phase = .uploaded cutoff rows count day →
      after.objects day = (after.files day).content) : after.Kept config := by
  refine ⟨?_, ?_, ?_, uploaded⟩
  · intro row member
    rw [inserted] at member
    rw [table]
    exact (kept.stored row member).imp_right (secures row)
  · intro other found row member older
    obtain rfl : cutoff = other := Option.some.inj (now.symm.trans found)
    rw [table] at member
    rcases kept.handled cutoff before row member older with toCome | safe | written
    · exact (comes row toCome).imp_right Or.inr
    · exact Or.inr (Or.inl (secures row safe))
    · exact Or.inr (stays row written)
  · rw [table]
    exact flushed

/-! ### Files -/

theorem IsLine.append {row : AuditRow} {content : List Char} (found : IsLine config row content)
    (more : List Char) : IsLine config row (content ++ more) := by
  obtain ⟨text, marshalled, member⟩ := found
  exact ⟨text, marshalled, mem_lines_append more member⟩

theorem Safe.setFile {row : AuditRow} (safe : state.Safe config row) {day : Int} {file : ArchiveFile}
    (lasts : IsLine config row (state.files day).synced → IsLine config row file.synced) :
    (state.setFile day file).Safe config row := by
  refine safe.imp_left fun onDisk => ?_
  show IsLine config row (Function.update state.files day file row.day).synced
  by_cases here : row.day = day
  · rw [here, Function.update_self]
    exact lasts (here ▸ onDisk)
  · rwa [Function.update_of_ne here]

theorem IsLine.sync {row : AuditRow} {file : ArchiveFile} (found : IsLine config row file.synced)
    (answered : Bool) : IsLine config row (file.sync answered).synced := by
  unfold ArchiveFile.sync
  split
  · exact found.append _
  · exact found

theorem Safe.sync {row : AuditRow} (safe : state.Safe config row) (day : Int) (answered : Bool) :
    (state.setFile day ((state.files day).sync answered)).Safe config row :=
  safe.setFile fun onDisk => onDisk.sync answered

theorem OnOpenFile.safe {row : AuditRow} (written : state.OnOpenFile config row) {day : Int}
    (isOpen : state.openFile = some day) {answered : Bool}
    (settled : answered = true ∨ (state.files day).pending = []) :
    (state.setFile day ((state.files day).sync answered)).Safe config row := by
  obtain rfl : day = row.day := Option.some.inj (isOpen.symm.trans written.1)
  refine Or.inl ?_
  show IsLine config row (Function.update state.files row.day _ row.day).synced
  rw [Function.update_self]
  have found := written.2
  unfold ArchiveFile.sync
  split
  · exact found
  · rename_i failed
    have empty := settled.resolve_left failed
    rwa [ArchiveFile.content, empty, List.append_nil] at found

/-! ### One lemma for each step -/

theorem Kept.insert (kept : state.Kept config) {row : AuditRow}
    (late : ∀ cutoff ∈ state.phase.cutoff, cutoff ≤ row.instant) :
    Kept config { state with
      table := state.table ++ [row]
      inserted := state.inserted ++ [row] } := by
  have split : ∀ {cutoff other}, cutoff ∈ state.phase.cutoff → other ∈ state.table ++ [row] →
      other.instant < cutoff → other ∈ state.table := by
    intro cutoff other found member older
    rcases List.mem_append.mp member with earlier | newest
    · exact earlier
    · rw [List.mem_singleton.mp newest] at older
      exact absurd older (late cutoff found).not_gt
  refine ⟨?_, ?_, ?_, kept.uploaded⟩
  · intro other member
    rcases List.mem_append.mp member with earlier | newest
    · exact (kept.stored other earlier).imp_left fun found => List.mem_append_left _ found
    · exact Or.inl (List.mem_append_right _ newest)
  · intro cutoff found other member older
    exact kept.handled cutoff found other (split found member older) older
  · intro cutoff phase other member older
    have found : cutoff ∈ state.phase.cutoff := by
      rw [show state.phase = .synced cutoff from phase]
      rfl
    exact kept.flushed cutoff phase other (split found member older) older

theorem Kept.start (kept : state.Kept config) {cutoff : Int} {rows : List AuditRow}
    (older : OlderThan state.table cutoff rows) :
    Kept config { state with
      phase := .rows cutoff rows 0
      lastCutoff := some cutoff } := by
  refine ⟨kept.stored, ?_, nofun, nofun⟩
  intro other found row member before
  obtain rfl : cutoff = other := Option.some.inj found
  exact Or.inl (older.1.mem_iff.mpr (List.mem_filter.mpr ⟨member, decide_eq_true before⟩))

theorem Kept.close (kept : state.Kept config) {cutoff : Int} {rows : List AuditRow} {count : Nat}
    (phase : state.phase = .rows cutoff rows count) {day : Int} (isOpen : state.openFile = some day)
    {synced : Bool} (settled : synced = true ∨ (state.files day).pending = []) :
    Kept config { state.setFile day ((state.files day).sync synced) with
      openFile := none
      phase := if config.s3 then .closed cutoff rows count day else .rows cutoff rows count } := by
  refine kept.sweep cutoff (congrArg ArchivePhase.cutoff phase) ?_ rfl rfl
    (fun row safe => safe.sync day synced) ?_ (fun row written => Or.inl (written.safe isOpen settled))
    ?_ ?_
  · dsimp only
    split
    · rfl
    · rfl
  · intro row member
    rw [phase] at member
    refine Or.inl ?_
    dsimp only
    split
    · exact member
    · exact member
  · intro other found
    dsimp only at found
    split at found
    · exact nomatch found
    · exact nomatch found
  · intro other rows count' day' found
    dsimp only at found
    split at found
    · exact nomatch found
    · exact nomatch found

theorem Kept.upload (kept : state.Kept config) {cutoff : Int} {rows : List AuditRow} {count : Nat}
    {day : Int} (phase : state.phase = .closed cutoff rows count day) {stored answered : Bool}
    (honest : ¬ (stored = false ∧ answered = true))
    (covers : stored = true → ∀ text ∈ lines '\n' (state.objects day),
      text ∈ lines '\n' (state.files day).content) :
    Kept config { state with
      objects := if stored then Function.update state.objects day (state.files day).content
        else state.objects
      phase := if answered = true ∧ config.deleteAfterUpload = true then
          .uploaded cutoff rows count day
        else .rows cutoff rows count } := by
  refine kept.sweep cutoff (congrArg ArchivePhase.cutoff phase) ?_ rfl rfl ?_ ?_ ?_ ?_ ?_
  · dsimp only
    split
    · rfl
    · rfl
  · intro row safe
    refine safe.imp_right fun found => ?_
    dsimp only
    split
    · rename_i put
      by_cases here : row.day = day
      · obtain ⟨text, marshalled, member⟩ := found
        rw [here] at member ⊢
        rw [Function.update_self]
        exact ⟨text, marshalled, covers put text member⟩
      · rwa [Function.update_of_ne here]
    · exact found
  · intro row member
    rw [phase] at member
    refine Or.inl ?_
    dsimp only
    split
    · exact member
    · exact member
  · exact fun row written => Or.inr written
  · intro other found
    dsimp only at found
    split at found
    · exact nomatch found
    · exact nomatch found
  · intro other rows' count' day' found
    dsimp only at found ⊢
    split at found
    · rename_i removes
      obtain rfl : day = day' := (ArchivePhase.uploaded.inj found).2.2.2
      have put : stored = true := by
        rw [← Bool.not_eq_false]
        exact fun absent => honest ⟨absent, removes.1⟩
      rw [if_pos put, Function.update_self]
    · exact nomatch found

theorem Kept.remove (kept : state.Kept config) {cutoff : Int} {rows : List AuditRow} {count : Nat}
    {day : Int} (phase : state.phase = .uploaded cutoff rows count day) (answered : Bool) :
    Kept config { state.setFile day (if answered then {} else state.files day) with
      phase := .rows cutoff rows count } := by
  have copied := kept.uploaded cutoff rows count day phase
  -- what the day's file holds is in the day's object
  have moved : ∀ {row}, IsLine config row (state.files row.day).content → row.day = day →
      IsLine config row (state.objects row.day) := by
    intro row found here
    rw [here] at found ⊢
    rwa [copied]
  refine kept.sweep cutoff (congrArg ArchivePhase.cutoff phase) rfl rfl rfl ?_ ?_ ?_ nofun nofun
  · intro row safe
    by_cases here : row.day = day
    · rcases safe with onDisk | inObject
      · exact Or.inr (moved (onDisk.append _) here)
      · exact Or.inr inObject
    · refine safe.imp_left fun onDisk => ?_
      show IsLine config row (Function.update state.files day _ row.day).synced
      rwa [Function.update_of_ne here]
  · intro row member
    rw [phase] at member
    exact Or.inl member
  · intro row written
    by_cases here : row.day = day
    · exact Or.inl (Or.inr (moved written.2 here))
    · refine Or.inr ⟨written.1, ?_⟩
      show IsLine config row (Function.update state.files day _ row.day).content
      rw [Function.update_of_ne here]
      exact written.2

theorem Kept.openFile (kept : state.Kept config) {cutoff : Int} {rows : List AuditRow} {count : Nat}
    (phase : state.phase = .rows cutoff rows count) (isClosed : state.openFile = none) (day : Int) :
    Kept config { state with openFile := some day } := by
  refine kept.sweep cutoff (congrArg ArchivePhase.cutoff phase) (congrArg ArchivePhase.cutoff phase)
    rfl rfl (fun _ safe => safe) (fun _ member => Or.inl member) ?_ ?_ ?_
  · intro row written
    exact absurd (isClosed.symm.trans written.1) (Option.some_ne_none _).symm
  · exact fun other found => nomatch phase.symm.trans found
  · exact fun other rows' count' day' found => nomatch phase.symm.trans found

theorem Safe.write {row : AuditRow} (safe : state.Safe config row) (day : Int) (text : List Char) :
    (state.setFile day ((state.files day).write text)).Safe config row :=
  safe.setFile id

theorem Kept.write (kept : state.Kept config) {cutoff : Int} {row : AuditRow}
    {rest : List AuditRow} {count : Nat} (phase : state.phase = .rows cutoff (row :: rest) count)
    (isOpen : state.openFile = some row.day) {text : List Char}
    (marshalled : config.codec.marshal row = some text)
    (ends : EndsLine '\n' (state.files row.day).content) :
    Kept config { state.setFile row.day ((state.files row.day).write (line text)) with
      phase := .rows cutoff rest (count + 1) } := by
  have grown : ((state.files row.day).write (line text)).content =
      (state.files row.day).content ++ (text ++ ['\n']) := (List.append_assoc ..).symm
  have lies : IsLine config row ((state.files row.day).write (line text)).content := by
    rw [grown]
    exact ⟨text, marshalled, mem_lines_record ends (config.codec.escapes row text marshalled)⟩
  refine kept.sweep cutoff (congrArg ArchivePhase.cutoff phase) rfl rfl rfl
    (fun _ safe => safe.write row.day _) ?_ ?_ nofun nofun
  · intro other member
    rw [phase] at member
    rcases List.mem_cons.mp member with rfl | later
    · refine Or.inr ⟨isOpen, ?_⟩
      show IsLine config other (Function.update state.files other.day _ other.day).content
      rwa [Function.update_self]
    · exact Or.inl later
  · intro other written
    have here : row.day = other.day := Option.some.inj (isOpen.symm.trans written.1)
    refine Or.inr ⟨written.1, ?_⟩
    show IsLine config other (Function.update state.files row.day _ other.day).content
    rw [← here, Function.update_self, grown]
    exact (here ▸ written.2).append _

theorem Kept.finish (kept : state.Kept config) {cutoff : Int} {count : Nat}
    (phase : state.phase = .rows cutoff [] count) :
    Kept config { state with phase := .written cutoff } := by
  refine kept.sweep cutoff (congrArg ArchivePhase.cutoff phase) rfl rfl rfl (fun _ safe => safe) ?_
    (fun _ written => Or.inr written) nofun nofun
  intro row member
  rw [phase] at member
  exact absurd member List.not_mem_nil

theorem Kept.sync (kept : state.Kept config) {cutoff : Int} (phase : state.phase = .written cutoff)
    (secures : ∀ row, state.Safe config row → after.Safe config row)
    (settles : ∀ row, state.OnOpenFile config row → after.Safe config row)
    (table : after.table = state.table) (inserted : after.inserted = state.inserted)
    (now : after.phase = .synced cutoff) : after.Kept config := by
  have before := congrArg ArchivePhase.cutoff phase
  have none : left state.phase = [] := congrArg left phase
  refine kept.sweep cutoff before (congrArg ArchivePhase.cutoff now) table inserted secures ?_
    (fun row written => Or.inl (settles row written)) ?_ ?_
  · intro row member
    rw [none] at member
    exact absurd member List.not_mem_nil
  · intro other found row member older
    obtain rfl : cutoff = other := ArchivePhase.synced.inj (now.symm.trans found)
    rcases kept.handled cutoff before row member older with toCome | safe | written
    · rw [none] at toCome
      exact absurd toCome List.not_mem_nil
    · exact secures row safe
    · exact settles row written
  · exact fun other rows count day found => nomatch now.symm.trans found

theorem Kept.deleteOlderThan (kept : state.Kept config) {cutoff : Int}
    (phase : state.phase = .synced cutoff) (executed : Bool) :
    Kept config { state with
      table := if executed then state.table.filter fun row => ¬ row.instant < cutoff else state.table
      phase := .idle } := by
  refine ⟨?_, nofun, nofun, nofun⟩
  intro row member
  rcases kept.stored row member with found | safe
  · dsimp only
    split
    · by_cases older : row.instant < cutoff
      · exact Or.inr (kept.flushed cutoff phase row found older)
      · exact Or.inl (List.mem_filter.mpr ⟨found, decide_eq_true older⟩)
    · exact Or.inl found
  · exact Or.inr safe

/-! ### Every run -/

/-- Every careful step keeps the invariant. -/
theorem step_kept (kept : state.Kept config) (careful : state.Careful label)
    (fired : state.step config label = some after) : after.Kept config := by
  cases label with
  | insert row =>
    obtain ⟨late, same⟩ := Option.ite_none_right_eq_some.mp fired
    obtain rfl := Option.some_inj.mp same
    exact kept.insert late
  | start cutoff rows =>
    obtain ⟨⟨-, -, older⟩, same⟩ := Option.ite_none_right_eq_some.mp fired
    obtain rfl := Option.some_inj.mp same
    exact kept.start older
  | iterError =>
    simp only [step] at fired
    split at fired
    · obtain rfl := Option.some_inj.mp fired
      exact kept.end rfl rfl rfl fun _ safe => safe
    · exact nomatch fired
  | close synced =>
    simp only [step] at fired
    split at fired
    · rename_i cutoff row rest count day phase isOpen
      split at fired
      · exact nomatch fired
      · obtain rfl := Option.some_inj.mp fired
        exact kept.close phase isOpen (careful day isOpen)
    · exact nomatch fired
  | upload read stored answered =>
    simp only [step] at fired
    split at fired
    · rename_i cutoff rows count day phase
      have closing : day ∈ closedDay state.phase := by
        rw [phase]
        rfl
      split at fired
      · obtain rfl := Option.some_inj.mp fired
        refine kept.sweep cutoff (congrArg ArchivePhase.cutoff phase) rfl rfl rfl
          (fun _ safe => safe) ?_ (fun _ written => Or.inr written) nofun nofun
        intro row member
        rw [phase] at member
        exact Or.inl member
      · rename_i sends
        obtain ⟨opened, full⟩ := not_or.mp sends
        split at fired
        · exact nomatch fired
        · rename_i honest
          obtain rfl := Option.some_inj.mp fired
          refine kept.upload phase honest fun put => ?_
          exact careful day closing (Bool.eq_true_of_not_eq_false opened) put full
    · exact nomatch fired
  | remove answered =>
    simp only [step] at fired
    split at fired
    · rename_i cutoff rows count day phase
      obtain rfl := Option.some_inj.mp fired
      exact kept.remove phase answered
    · exact nomatch fired
  | openFile answered =>
    simp only [step] at fired
    split at fired
    · rename_i cutoff row rest count phase isClosed
      split at fired
      · obtain rfl := Option.some_inj.mp fired
        exact kept.openFile phase isClosed row.day
      · obtain rfl := Option.some_inj.mp fired
        exact kept.end rfl rfl rfl fun _ safe => safe
    · exact nomatch fired
  | write =>
    simp only [step] at fired
    split at fired
    · rename_i cutoff row rest count day phase isOpen
      split at fired
      · rename_i here
        rw [here] at isOpen fired
        split at fired
        · rename_i text marshalled
          obtain rfl := Option.some_inj.mp fired
          exact kept.write phase isOpen marshalled (careful row.day isOpen)
        · obtain rfl := Option.some_inj.mp fired
          exact kept.end rfl rfl rfl fun _ safe => safe
      · exact nomatch fired
    · exact nomatch fired
  | writeError written =>
    simp only [step] at fired
    split at fired
    · split at fired
      · obtain ⟨-, same⟩ := Option.ite_none_right_eq_some.mp fired
        obtain rfl := Option.some_inj.mp same
        exact kept.end rfl rfl rfl fun _ safe => safe.write _ _
      · exact nomatch fired
    · exact nomatch fired
  | finish =>
    simp only [step] at fired
    split at fired
    · rename_i cutoff count phase
      obtain rfl := Option.some_inj.mp fired
      split
      · exact kept.end rfl rfl rfl fun _ safe => safe
      · exact kept.finish phase
    · exact nomatch fired
  | sync answered =>
    simp only [step] at fired
    split at fired
    · rename_i cutoff day phase isOpen
      obtain rfl := Option.some_inj.mp fired
      split
      · rename_i done
        exact kept.sync phase (fun _ safe => safe.sync day answered)
          (fun _ written => written.safe isOpen (Or.inl done)) rfl rfl rfl
      · exact kept.end rfl rfl rfl fun _ safe => safe.sync day answered
    · rename_i cutoff phase isClosed
      obtain rfl := Option.some_inj.mp fired
      refine kept.sync phase (fun _ safe => safe) (fun _ written => ?_) rfl rfl rfl
      exact absurd (isClosed.symm.trans written.1) (Option.some_ne_none _).symm
    · exact nomatch fired
  | deleteOlderThan executed =>
    simp only [step] at fired
    split at fired
    · rename_i cutoff phase
      obtain rfl := Option.some_inj.mp fired
      exact kept.deleteOlderThan phase executed
    · exact nomatch fired
  | stop synced =>
    simp only [step] at fired
    split at fired
    · rename_i day phase isOpen
      obtain rfl := Option.some_inj.mp fired
      exact kept.end phase rfl rfl fun _ safe => safe.sync day synced
    · obtain rfl := Option.some_inj.mp fired
      exact kept
    · exact nomatch fired
  | crash =>
    obtain rfl := Option.some_inj.mp fired
    exact kept.end rfl rfl rfl fun _ safe => safe

theorem Safe.present {row : AuditRow} (safe : state.Safe config row) : state.Present config row :=
  Or.inr (safe.imp_left fun onDisk => onDisk.append _)

/-- With every closed file synced, every object replaced by a file that holds its lines, and every
row written at the end of a line, no row is ever lost. -/
theorem present_of_careful (config : ArchiveConfig) (state : ArchiveState)
    (reached : Runs.Reaches (step config) Careful {} state) (row : AuditRow)
    (member : row ∈ state.inserted) : state.Present config row := by
  have kept : state.Kept config :=
    reached.invariant (Kept config) initial_kept fun _ _ _ kept careful fired =>
      step_kept kept careful fired
  rcases kept.stored row member with found | safe
  · exact Or.inl found
  · exact safe.present

/-! ### Rows that are lost -/

instance (config : ArchiveConfig) (row : AuditRow) (content : List Char) :
    Decidable (IsLine config row content) :=
  decidable_of_iff ((config.codec.marshal row).any fun text => lines '\n' content |>.contains text)
    (by simp [IsLine, Option.any_eq_true])

instance (config : ArchiveConfig) (state : ArchiveState) (row : AuditRow) :
    Decidable (state.Present config row) :=
  inferInstanceAs (Decidable (_ ∨ _ ∨ _))

/-- A row at an hour since the epoch. -/
def archiveRow (id : String) (hour : Int) : AuditRow :=
  { id, tenantID := "t", action := "POST", instant := hour * 3600000000000 }

def archiveText (id time : String) : List Char :=
  ("\x7b\"id\":\"" ++ id ++ "\",\"tenant_id\":\"t\",\"at\":\"" ++ time ++ "\",\"actor\":\"\"," ++
    "\"actor_sub\":\"\",\"action\":\"POST\",\"resource\":\"\",\"status\":0,\"request_id\":\"\"," ++
    "\"remote_ip\":\"\"\x7d").toList

theorem archiveText_escapes {id time : String} (idLine : '\n' ∉ id.toList)
    (timeLine : '\n' ∉ time.toList) : '\n' ∉ archiveText id time := by
  unfold archiveText
  simp only [String.toList_append, List.mem_append, not_or]
  refine ⟨⟨⟨⟨⟨⟨?_, idLine⟩, ?_⟩, timeLine⟩, ?_⟩, ?_⟩, ?_⟩
  all_goals
    rw [String.toList_ofList]
    decide

/-- The text of a row, character by character. -/
def spelledText (id time : List Char) : List Char :=
  ['\x7b', '"', 'i', 'd', '"', ':', '"'] ++ id ++
  ['"', ',', '"', 't', 'e', 'n', 'a', 'n', 't', '_', 'i', 'd', '"', ':', '"', 't', '"', ',', '"', 'a', 't', '"', ':',
   '"'] ++ time ++
  ['"', ',', '"', 'a', 'c', 't', 'o', 'r', '"', ':', '"', '"', ','] ++
  ['"', 'a', 'c', 't', 'o', 'r', '_', 's', 'u', 'b', '"', ':', '"', '"', ',', '"', 'a', 'c', 't', 'i', 'o', 'n', '"',
   ':', '"', 'P', 'O', 'S', 'T', '"', ',', '"', 'r', 'e', 's', 'o', 'u', 'r', 'c', 'e', '"', ':', '"', '"', ',', '"',
   's', 't', 'a', 't', 'u', 's', '"', ':', '0', ',', '"', 'r', 'e', 'q', 'u', 'e', 's', 't', '_', 'i', 'd', '"', ':',
   '"', '"', ','] ++
  ['"', 'r', 'e', 'm', 'o', 't', 'e', '_', 'i', 'p', '"', ':', '"', '"', '\x7d']

theorem archiveText_eq (id time : List Char) :
    archiveText (String.ofList id) (String.ofList time) = spelledText id time := by
  unfold archiveText
  rw [String.toList_append, String.toList_append, String.toList_append, String.toList_append, String.toList_append,
    String.toList_append, String.toList_ofList, String.toList_ofList, String.toList_ofList, String.toList_ofList,
    String.toList_ofList, String.toList_ofList, String.toList_ofList]
  rfl

/-- `json.Marshal` on two rows of a day and one of the next. -/
def sampleCodec : RowCodec where
  marshal row :=
    if row = archiveRow "a" 0 then some (archiveText "a" "1970-01-01T00:00:00Z")
    else if row = archiveRow "b" 12 then some (archiveText "b" "1970-01-01T12:00:00Z")
    else if row = archiveRow "c" 24 then some (archiveText "c" "1970-01-02T00:00:00Z")
    else none
  escapes row text marshalled := by
    split at marshalled
    · obtain rfl := Option.some_inj.mp marshalled
      exact archiveText_escapes (by decide) (by decide)
    · split at marshalled
      · obtain rfl := Option.some_inj.mp marshalled
        exact archiveText_escapes (by decide) (by decide)
      · split at marshalled
        · obtain rfl := Option.some_inj.mp marshalled
          exact archiveText_escapes (by decide) (by decide)
        · exact nomatch marshalled

def spelledMarshal (row : AuditRow) : Option (List Char) :=
  if row = archiveRow "a" 0 then some (spelledText ['a']
    ['1', '9', '7', '0', '-', '0', '1', '-', '0', '1', 'T', '0', '0', ':', '0', '0', ':', '0', '0', 'Z'])
  else if row = archiveRow "b" 12 then some (spelledText ['b']
    ['1', '9', '7', '0', '-', '0', '1', '-', '0', '1', 'T', '1', '2', ':', '0', '0', ':', '0', '0', 'Z'])
  else if row = archiveRow "c" 24 then some (spelledText ['c']
    ['1', '9', '7', '0', '-', '0', '1', '-', '0', '2', 'T', '0', '0', ':', '0', '0', ':', '0', '0', 'Z'])
  else none

theorem sampleCodec_marshal : sampleCodec.marshal = spelledMarshal := by
  funext row
  have first : archiveText "a" "1970-01-01T00:00:00Z" = spelledText _ _ := archiveText_eq ['a']
    ['1', '9', '7', '0', '-', '0', '1', '-', '0', '1', 'T', '0', '0', ':', '0', '0', ':', '0', '0', 'Z']
  have second : archiveText "b" "1970-01-01T12:00:00Z" = spelledText _ _ := archiveText_eq ['b']
    ['1', '9', '7', '0', '-', '0', '1', '-', '0', '1', 'T', '1', '2', ':', '0', '0', ':', '0', '0', 'Z']
  have third : archiveText "c" "1970-01-02T00:00:00Z" = spelledText _ _ := archiveText_eq ['c']
    ['1', '9', '7', '0', '-', '0', '1', '-', '0', '2', 'T', '0', '0', ':', '0', '0', ':', '0', '0', 'Z']
  simp only [sampleCodec, first, second, third, spelledMarshal]

theorem sampleCodec_eq : sampleCodec = ⟨spelledMarshal, sampleCodec_marshal ▸ sampleCodec.escapes⟩ := by
  have general : ∀ {codec : RowCodec} {marshal : AuditRow → Option (List Char)} (same : codec.marshal = marshal),
      codec = ⟨marshal, same ▸ codec.escapes⟩ := by
    intro codec marshal same
    subst same
    rfl
  exact general sampleCodec_marshal

/-- An archiver with files only, and one that uploads them and removes them. -/
def filesOnly : ArchiveConfig where
  codec := sampleCodec
  s3 := false
  deleteAfterUpload := false

def uploading : ArchiveConfig where
  codec := sampleCodec
  s3 := true
  deleteAfterUpload := true

/-- A sweep over two days whose first file was uploaded and removed, and then a crash. -/
def twoDays : List ArchiveLabel :=
  [.insert (archiveRow "a" 0), .insert (archiveRow "c" 24),
    .start 180000000000000 [archiveRow "a" 0, archiveRow "c" 24], .openFile true, .write,
    .close true, .upload true true true, .remove true, .openFile true, .write, .finish, .sync true,
    .deleteOlderThan true, .crash]

/-- Rows of two days are archived with care, the files uploaded and the rows deleted: both are still
there. -/
theorem twoDays_present :
    ∃ state, Runs.Reaches (step uploading) Careful {} state ∧ state.table = [] ∧
      state.inserted.length = 2 ∧ ∀ row ∈ state.inserted, state.Present uploading row := by
  obtain ⟨state, reached, tested⟩ := Runs.exists_reaches_of_exec (step uploading) Careful {} twoDays
    (fun state => decide (state.table = [] ∧ state.inserted.length = 2)) (by
      rw [uploading, sampleCodec_eq]
      decide)
  obtain ⟨empty, two⟩ := of_decide_eq_true tested
  exact ⟨state, reached, empty, two, present_of_careful uploading state reached⟩

/-- The first of two files is not synced, both rows are deleted, and the process crashes. -/
def unsyncedFile : List ArchiveLabel :=
  [.insert (archiveRow "a" 0), .insert (archiveRow "c" 24),
    .start 180000000000000 [archiveRow "a" 0, archiveRow "c" 24], .openFile true, .write,
    .close false, .openFile true, .write, .finish, .sync true, .deleteOlderThan true, .crash]

/-- A row is archived and deleted. The next sweep uploads and removes its file, and then cannot open
the next one; the sweep after it uploads a file with the other row of the day alone. -/
def replacedObject : List ArchiveLabel :=
  [.insert (archiveRow "a" 0), .start 3600000000000 [archiveRow "a" 0], .openFile true, .write,
    .finish, .sync true, .deleteOlderThan true,
    .insert (archiveRow "b" 12), .insert (archiveRow "c" 24),
    .start 180000000000000 [archiveRow "b" 12, archiveRow "c" 24], .write, .close true,
    .upload true true true, .remove true, .openFile false,
    .start 180000000000000 [archiveRow "b" 12, archiveRow "c" 24], .openFile true, .write,
    .close true, .upload true true true]

/-- A line is cut short, and the next sweep writes the row onto it. -/
def tornLine : List ArchiveLabel :=
  [.insert (archiveRow "a" 0), .start 3600000000000 [archiveRow "a" 0], .openFile true,
    .writeError 9, .start 3600000000000 [archiveRow "a" 0], .write, .finish, .sync true,
    .deleteOlderThan true]

/-- The run ends with the row of the first hour nowhere. -/
def Loses (config : ArchiveConfig) (labels : List ArchiveLabel) : Prop :=
  (Runs.exec (step config) (fun _ _ => True) {} labels).any fun state =>
    decide (archiveRow "a" 0 ∈ state.inserted ∧ ¬ state.Present config (archiveRow "a" 0))

instance (config : ArchiveConfig) (labels : List ArchiveLabel) : Decidable (Loses config labels) :=
  inferInstanceAs (Decidable (_ = true))

/-- Rows are lost by a file of an earlier day that was not synced, by an object that a later sweep
replaced, and by a line that was torn. -/
theorem rows_lost :
    Loses filesOnly unsyncedFile ∧ Loses uploading replacedObject ∧ Loses filesOnly tornLine := by
  rw [filesOnly, uploading, sampleCodec_eq]
  decide +kernel

end ArchiveState

end MqConnector
