/-
This file models `audit.Archiver`: the sweeps that move old rows of `audit_log` to
one file a day, and the files on to S3.

`Archive` iterates the rows before a cut-off, oldest first, and appends each to the
file of its day. When the day changes, the file before is synced, closed and, if
there is an uploader, put under the key of its day in place of what is there; it may
then be removed. Every operation may fail, the process may stop or crash at any
point, and a crash takes what was not synced.

A file is known by its day.
-/

import MqConnector.Audit
import MqConnector.Lines

namespace MqConnector

/-! ### Files -/

/-- A local file, as far as it was synced and what was written since. -/
structure ArchiveFile where
  synced : List Char := []
  pending : List Char := []
  deriving DecidableEq

namespace ArchiveFile

/-- What a reader of the file sees. -/
def content (file : ArchiveFile) : List Char :=
  file.synced ++ file.pending

def write (file : ArchiveFile) (text : List Char) : ArchiveFile :=
  { file with pending := file.pending ++ text }

/-- `File.Sync`, with its answer. -/
def sync (file : ArchiveFile) (answered : Bool) : ArchiveFile :=
  if answered then { synced := file.content } else file

def crash (file : ArchiveFile) : ArchiveFile :=
  { synced := file.synced }

end ArchiveFile

/-- `json.Marshal` of an entry. -/
structure RowCodec where
  marshal : AuditRow → Option (List Char)
  escapes : ∀ row text, marshal row = some text → '\n' ∉ text

/-- What the archiver is set up with. -/
structure ArchiveConfig where
  codec : RowCodec
  s3 : Bool
  deleteAfterUpload : Bool

def AuditRow.day (row : AuditRow) : Int :=
  row.instant / 86400000000000

/-! ### The state -/

/-- Where `Archive` is: between rows, with the file of a day closed and still to be uploaded, with
the file of a day uploaded and to be removed, before the last sync, or before the delete. -/
inductive ArchivePhase
  | idle
  | rows (cutoff : Int) (left : List AuditRow) (count : Nat)
  | closed (cutoff : Int) (left : List AuditRow) (count : Nat) (day : Int)
  | uploaded (cutoff : Int) (left : List AuditRow) (count : Nat) (day : Int)
  | written (cutoff : Int)
  | synced (cutoff : Int)
  deriving DecidableEq

/-- The cut-off of the sweep that is under way. -/
def ArchivePhase.cutoff : ArchivePhase → Option Int
  | .idle => none
  | .rows cutoff _ _ | .closed cutoff _ _ _ | .uploaded cutoff _ _ _ | .written cutoff
  | .synced cutoff => some cutoff

/-- The three stores, the open file, and the sweep. `openFile` is `openDate` while the file is open:
the source reads `openDate` only then. `inserted` are all rows there ever were. -/
structure ArchiveState where
  table : List AuditRow := []
  files : Int → ArchiveFile := fun _ => {}
  objects : Int → List Char := fun _ => []
  openFile : Option Int := none
  phase : ArchivePhase := .idle
  lastCutoff : Option Int := none
  inserted : List AuditRow := []

/-- The steps, with what the disk, S3 and the database answer. -/
inductive ArchiveLabel
  | insert (row : AuditRow)
  | start (cutoff : Int) (rows : List AuditRow)
  | iterError
  | close (synced : Bool)
  | upload (read stored answered : Bool)
  | remove (answered : Bool)
  | openFile (answered : Bool)
  | write
  | writeError (count : Nat)
  | finish
  | sync (answered : Bool)
  | deleteOlderThan (executed : Bool)
  | stop (synced : Bool)
  | crash
  deriving DecidableEq

/-- What `IterOlderThan` hands over: the rows before the cut-off, `ORDER BY at`. -/
def OlderThan (table : List AuditRow) (cutoff : Int) (rows : List AuditRow) : Prop :=
  rows.Perm (table.filter fun row => row.instant < cutoff) ∧
    rows.Pairwise fun former latter => former.instant ≤ latter.instant

instance (table : List AuditRow) (cutoff : Int) (rows : List AuditRow) :
    Decidable (OlderThan table cutoff rows) :=
  inferInstanceAs (Decidable (_ ∧ _))

namespace ArchiveState

variable (config : ArchiveConfig)

def setFile (state : ArchiveState) (day : Int) (file : ArchiveFile) : ArchiveState :=
  { state with files := Function.update state.files day file }

def line (text : List Char) : List Char :=
  text ++ ['\n']

def step (state : ArchiveState) : ArchiveLabel → Option ArchiveState
  | .insert row =>
    -- rows inserted during a sweep are not older than its cut-off
    if ∀ cutoff ∈ state.phase.cutoff, cutoff ≤ row.instant then
      some { state with
        table := state.table ++ [row]
        inserted := state.inserted ++ [row] }
    else none
  | .start cutoff rows =>
    if state.phase = .idle ∧ (∀ last ∈ state.lastCutoff, last ≤ cutoff) ∧
        OlderThan state.table cutoff rows then
      some { state with
        phase := .rows cutoff rows 0
        lastCutoff := some cutoff }
    else none
  | .iterError =>
    match state.phase with
    | .rows _ _ _ => some { state with phase := .idle }
    | _ => none
  | .close synced =>
    match state.phase, state.openFile with
    | .rows cutoff (row :: rest) count, some day =>
      if day = row.day then none
      else some { state.setFile day ((state.files day).sync synced) with
        openFile := none
        phase := if config.s3 then .closed cutoff (row :: rest) count day
          else .rows cutoff (row :: rest) count }
    | _, _ => none
  | .upload read stored answered =>
    match state.phase with
    | .closed cutoff left count day =>
      let body := (state.files day).content
      if read = false ∨ body = [] then some { state with phase := .rows cutoff left count }
      else if stored = false ∧ answered = true then none
      else some { state with
        objects := if stored then Function.update state.objects day body else state.objects
        phase := if answered = true ∧ config.deleteAfterUpload = true then
            .uploaded cutoff left count day
          else .rows cutoff left count }
    | _ => none
  | .remove answered =>
    match state.phase with
    | .uploaded cutoff left count day =>
      some { state.setFile day (if answered then {} else state.files day) with
        phase := .rows cutoff left count }
    | _ => none
  | .openFile answered =>
    match state.phase, state.openFile with
    | .rows _ (row :: _) _, none =>
      if answered then some { state with openFile := some row.day }
      else some { state with phase := .idle }
    | _, _ => none
  | .write =>
    match state.phase, state.openFile with
    | .rows cutoff (row :: rest) count, some day =>
      if day = row.day then
        match config.codec.marshal row with
        | some text => some { state.setFile day ((state.files day).write (line text)) with
            phase := .rows cutoff rest (count + 1) }
        | none => some { state with phase := .idle }
      else none
    | _, _ => none
  | .writeError count =>
    match state.phase, state.openFile with
    | .rows _ (row :: _) _, some day =>
      match config.codec.marshal row with
      | some text =>
        if day = row.day ∧ count < (line text).length then
          some { state.setFile day ((state.files day).write ((line text).take count)) with
            phase := .idle }
        else none
      | none => none
    | _, _ => none
  | .finish =>
    match state.phase with
    | .rows cutoff [] count =>
      some { state with phase := if count = 0 then .idle else .written cutoff }
    | _ => none
  | .sync answered =>
    match state.phase, state.openFile with
    | .written cutoff, some day =>
      some { state.setFile day ((state.files day).sync answered) with
        phase := if answered then .synced cutoff else .idle }
    | .written cutoff, none => some { state with phase := .synced cutoff }
    | _, _ => none
  | .deleteOlderThan executed =>
    match state.phase with
    | .synced cutoff =>
      some { state with
        table := if executed then state.table.filter fun row => ¬ row.instant < cutoff
          else state.table
        phase := .idle }
    | _ => none
  | .stop synced =>
    match state.phase, state.openFile with
    | .idle, some day =>
      some { state.setFile day ((state.files day).sync synced) with openFile := none }
    | .idle, none => some state
    | _, _ => none
  | .crash =>
    some { state with
      files := fun day => (state.files day).crash
      openFile := none
      phase := .idle }

end ArchiveState

end MqConnector
