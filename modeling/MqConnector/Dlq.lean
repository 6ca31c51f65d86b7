/-
This file models `internal/dlq`: the dead-letter rows, `Service.Push` with its
redaction and sealing (`internal/secrets`), `Service.Retry`, and the two loops
that call it, `BulkRetry` and the reaper.

The service is a step machine. A push, one call of `Retry` with what its loop
does around it, a change of the stored pipelines, of the redaction rules or of
the master keys are one step each; a bulk retry and a sweep of the reaper are
jobs with the rows they still have to do, and any number of jobs interleave.

A retry takes its connector from the pool, under a key that is made of the row's id alone. What
the pool holds under these keys is part of the state, and it can be lost at any time.

The message the executor pushed, kept beside every row, and the executor that
`startPipeline` would build at that moment, kept beside every payload sent, are
what a retry is compared with. No step of the code reads them.
-/

import MqConnector.Build
import Mathlib.Algebra.Ring.Int.Defs

namespace MqConnector

/-! ### Master keys -/

/-- The letters `enc:`. -/
def encryptedPrefix : Bytes := [0x65, 0x6e, 0x63, 0x3a]

/-- The versions a key can have: an `int` from one on. -/
def KeyVersion (version : Nat) : Prop :=
  1 ≤ version ∧ version < 2 ^ 63

instance (version : Nat) : Decidable (KeyVersion version) :=
  inferInstanceAs (Decidable (1 ≤ version ∧ version < 2 ^ 63))

/-- `secrets.seal`, and `Decrypt` past its prefix check: `parseCiphertext`, the choice of the
key by its version and the AEAD's `Open`. -/
structure Cipher (Key : Type) where
  nonceSize : Nat
  sealText : Key → Nat → Bytes → Bytes → Bytes
  openText : (Nat → Option Key) → Bytes → Option Bytes
  sealText_prefix : ∀ key version nonce text,
    encryptedPrefix <+: sealText key version nonce text
  openText_sealText : ∀ keys key version nonce text, keys version = some key → KeyVersion version →
    nonce.length = nonceSize → openText keys (sealText key version nonce text) = some text

/-- `secrets.Service` with at least one key; the current version always has one. -/
structure KeyRing (Key : Type) where
  keys : Nat → Option Key
  current : Nat
  key : Key
  held : keys current = some key
  versioned : ∀ version key, keys version = some key → KeyVersion version

namespace KeyRing

variable {Key : Type}

theorem versioned_update (ring : KeyRing Key) {added : Nat} (valid : KeyVersion added) (key : Key)
    (version : Nat) (known : Key) (found : Function.update ring.keys added (some key) version = some known) :
    KeyVersion version := by
  by_cases same : version = added
  · rw [same]
    exact valid
  · rw [Function.update_of_ne same] at found
    exact ring.versioned version known found

/-- `Service.AddKey`: a version that is taken keeps its key. -/
def addKey (ring : KeyRing Key) (version : Nat) (key : Key) : KeyRing Key :=
  if valid : KeyVersion version then
    match taken : ring.keys version with
    | some _ => ring
    | none =>
      if ring.current < version then
        { keys := Function.update ring.keys version (some key)
          current := version
          key := key
          held := Function.update_self _ _ _
          versioned := ring.versioned_update valid key }
      else
        { keys := Function.update ring.keys version (some key)
          current := ring.current
          key := ring.key
          held := by
            rw [Function.update_of_ne, ring.held]
            intro same
            rw [← same, ring.held] at taken
            exact absurd taken (by simp)
          versioned := ring.versioned_update valid key }
  else ring

theorem addKey_keys (ring : KeyRing Key) (version : Nat) (key : Key) {other : Nat} {known : Key}
    (held : ring.keys other = some known) : (ring.addKey version key).keys other = some known := by
  unfold addKey
  split
  · split
    · exact held
    · rename_i free
      have different : other ≠ version := by
        intro same
        rw [← same, held] at free
        exact absurd free (by simp)
      split
      · dsimp only
        rw [Function.update_of_ne different, held]
      · dsimp only
        rw [Function.update_of_ne different, held]
  · exact held

/-- `Service.Encrypt`; there is no nonce of the right size when the random source fails. -/
def encrypt (cipher : Cipher Key) (ring : KeyRing Key) (nonce : Option Bytes) (text : Bytes) :
    Option Bytes :=
  if text = [] then some []
  else if encryptedPrefix.isPrefixOf text then some text
  else
    (nonce.filter fun nonce => nonce.length = cipher.nonceSize).map fun nonce =>
      cipher.sealText ring.key ring.current nonce text

/-- Sealed values are opened, others returned as they are. -/
def decrypt (cipher : Cipher Key) (ring : KeyRing Key) (value : Bytes) : Option Bytes :=
  if encryptedPrefix.isPrefixOf value then cipher.openText ring.keys value else some value

end KeyRing

/-! ### Rows, answers and the service -/

/-- A row of `dlq`: the entry the executor filled in, as it is stored, and the service's own
columns. The clustering columns are written and never read here. -/
structure DLQRow where
  id : String
  entry : DLQEntry
  rawMsg : Bytes := []
  redacted : Bool := false
  retryCount : Nat := 0
  nextRetryAt : Option Int := none
  deriving DecidableEq

/-- A stored row and the message whose failure it records. -/
structure HeldRow where
  row : DLQRow
  message : Bytes
  deriving DecidableEq

/-- What a push meets: the clock, whether the pipeline and its redaction rules could be read,
what the random source gives for a nonce, the id of the new row, and whether the insert succeeds. -/
structure PushAnswers where
  now : Int
  pipelineRead : Bool := true
  rulesRead : Bool := true
  nonce : Option Bytes := some []
  id : String
  inserted : Bool := true
  deriving DecidableEq

/-- Whether each call of a `Retry` succeeds. -/
structure RetryAnswers where
  rowRead : Bool := true
  pipelineRead : Bool := true
  counted : Bool := true
  connectionRead : Bool := true
  connected : Bool := true
  sent : Bool := true
  deriving DecidableEq

/-- How a `Retry` returns. -/
inductive RetryResult
  | succeeded
  | maxRetries
  | failed
  deriving DecidableEq

/-- `dlq.Service`, with what the executors it stands beside are built with. `NewService` makes
the retry cap positive; `redact` is `Redactor.Apply`, absent when no rule changed the payload. -/
structure DlqService (World Document Key Rule : Type) where
  maxRetries : Nat
  cipher : Cipher Key
  redact : List Rule → Bytes → Option Bytes
  builder : StageBuilder World Document
  payloadHash : Bytes → String

/-- A payload a retry handed to `SendMessage` with the configuration of its connector; beside
it the message of the row and the executor of the pipeline as stored at that moment. -/
structure Sent (World : Type) where
  payload : Bytes
  config : Config
  message : Bytes
  executor : Option (Executor World)
  world : World

/-- A loop that calls `Retry`, with the rows it still has to do. -/
inductive RetryJob
  | idle
  | bulk (tenantID : String) (ids : List String)
  | reaping (rows : List DLQRow)
  deriving DecidableEq

/-- The state the service works on. For each row the pool may hold a connector, here the configuration that it was
built from. -/
structure DlqState (World Key Rule : Type) where
  store : Store
  rules : String → List Rule
  keys : Option (KeyRing Key)
  rows : List HeldRow := []
  pooled : String → Option Config := fun _ => none
  jobs : Nat → RetryJob := fun _ => .idle
  log : List (Sent World) := []

namespace DlqState

variable {World Key Rule : Type}

/-- `Get`. -/
def get (state : DlqState World Key Rule) (tenantID id : String) : Option HeldRow :=
  if tenantID = "" then none
  else state.rows.find? fun held => held.row.id = id ∧ held.row.entry.tenantID = tenantID

/-- One row of the tenant is changed. -/
def updateRow (state : DlqState World Key Rule) (tenantID id : String)
    (change : DLQRow → DLQRow) : DlqState World Key Rule :=
  { state with
    rows := state.rows.map fun held =>
      if held.row.id = id ∧ held.row.entry.tenantID = tenantID then
        { held with row := change held.row }
      else held }

/-- `IncrementRetry`. -/
def incrementRetry (state : DlqState World Key Rule) (tenantID id : String) :
    DlqState World Key Rule :=
  state.updateRow tenantID id fun row => { row with retryCount := row.retryCount + 1 }

/-- `ScheduleRetry`. -/
def scheduleRetry (state : DlqState World Key Rule) (tenantID id : String)
    (next : Option Int) : DlqState World Key Rule :=
  state.updateRow tenantID id fun row => { row with nextRetryAt := next }

/-- `Delete`. -/
def delete (state : DlqState World Key Rule) (tenantID id : String) : DlqState World Key Rule :=
  { state with
    rows := state.rows.filter fun held =>
      ¬ (held.row.id = id ∧ held.row.entry.tenantID = tenantID) }

/-- `ListDue`: the rows that are due, the oldest first. -/
def listDue (state : DlqState World Key Rule) (now : Int) (limit : Nat) : List DLQRow :=
  (((state.rows.map HeldRow.row).filter fun row => row.nextRetryAt.any (· ≤ now)).insertionSort
    fun first second => first.nextRetryAt.getD 0 ≤ second.nextRetryAt.getD 0).take limit

/-- `pool.Get` for a row: a connector that is there is found whatever configuration is asked for, and one that does not
connect is dropped. -/
def getConnector (state : DlqState World Key Rule) (id : String) (config : Config) (connected : Bool) :
    DlqState World Key Rule :=
  { state with
    pooled := Function.update state.pooled id
      (if connected then some ((state.pooled id).getD config) else none) }

def setJob (state : DlqState World Key Rule) (job : Nat) (value : RetryJob) :
    DlqState World Key Rule :=
  { state with jobs := Function.update state.jobs job value }

end DlqState

/-- `backoffDelay` in nanoseconds. The shift is a 64-bit one. -/
def backoffDelay (attempt : Nat) (baseMs : Int) : Int :=
  let baseMs := if baseMs ≤ 0 then 5000 else baseMs
  let ms := Int.bmod (baseMs * 2 ^ min attempt 30) (2 ^ 64)
  (if 600000 < ms ∨ ms < 0 then 600000 else ms) * 1000000

namespace DlqService

variable {World Document Key Rule : Type} (service : DlqService World Document Key Rule)

/-! ### Push -/

/-- `applyRedaction` on the row to be inserted. -/
def applyRedaction (keys : Option (KeyRing Key)) (rules : List Rule) (nonce : Option Bytes)
    (row : DLQRow) : DLQRow :=
  if row.entry.originalMsg = [] then row
  else
    match keys, service.redact rules row.entry.originalMsg with
    | some ring, some redacted =>
      match ring.encrypt service.cipher nonce row.entry.originalMsg with
      | none => row
      | some sealed =>
        { row with
          rawMsg := sealed
          entry := { row.entry with originalMsg := redacted }
          redacted := true }
    | _, _ => row

/-- When the reaper is to take a new row up: at once when its pipeline is known and has
retries left. -/
def firstRetryAt (state : DlqState World Key Rule) (entry : DLQEntry) (answers : PushAnswers) :
    Option Int :=
  if entry.pipelineID = "" ∨ answers.pipelineRead = false then none
  else
    match state.store.pipelines.find? fun pipeline => pipeline.id = entry.pipelineID with
    | none => none
    | some pipeline =>
      let retryMax := if pipeline.retryMax = 0 then (service.maxRetries : Int) else pipeline.retryMax
      if 0 < retryMax then some (answers.now + backoffDelay 0 pipeline.retryBackoffMs) else none

/-- The row that `Push` stores. -/
def pushedRow (state : DlqState World Key Rule) (entry : DLQEntry) (answers : PushAnswers) :
    DLQRow :=
  let tenantID := if entry.tenantID = "" then defaultTenantID else entry.tenantID
  let row : DLQRow :=
    { id := answers.id
      entry := { entry with tenantID := tenantID }
      nextRetryAt := service.firstRetryAt state entry answers }
  if entry.pipelineID = "" ∨ answers.rulesRead = false ∨ state.rules entry.pipelineID = [] then row
  else service.applyRedaction state.keys (state.rules entry.pipelineID) answers.nonce row

/-- `Service.Push`; an insert that fails, or whose id is taken, leaves the table alone. -/
def push (state : DlqState World Key Rule) (entry : DLQEntry) (answers : PushAnswers) :
    DlqState World Key Rule :=
  if answers.inserted = false ∨ (state.rows.any fun held => held.row.id = answers.id) then state
  else
    { state with
      rows := state.rows ++
        [{ row := service.pushedRow state entry answers, message := entry.originalMsg }] }

/-! ### Retry -/

/-- The first half of `Retry`: the row, its pipeline and the two cap checks. -/
def loadRetry (state : DlqState World Key Rule) (tenantID id : String) (answers : RetryAnswers) :
    Except RetryResult (HeldRow × Pipeline) :=
  if answers.rowRead = false then .error .failed
  else
    match state.get tenantID id with
    | none => .error .failed
    | some held =>
      if service.maxRetries ≤ held.row.retryCount then .error .maxRetries
      else if held.row.entry.pipelineID = "" ∨ answers.pipelineRead = false then .error .failed
      else
        match state.store.pipelines.find? fun pipeline =>
            pipeline.id = held.row.entry.pipelineID ∧ pipeline.tenantID = tenantID with
        | none => .error .failed
        | some pipeline =>
          if max (service.maxRetries : Int) pipeline.retryMax ≤ held.row.retryCount then
            .error .maxRetries
          else .ok (held, pipeline)

/-- `Connections.Get` of the pipeline's destination. -/
def retryConnection (state : DlqState World Key Rule) (tenantID : String) (pipeline : Pipeline)
    (answers : RetryAnswers) : Option Connection :=
  if answers.connectionRead then
    (state.store.connections pipeline.destinationID).filter (·.tenantID = tenantID)
  else none

/-- The destination of a retry that gets its connector. -/
def retryDestination (state : DlqState World Key Rule) (tenantID : String) (pipeline : Pipeline)
    (answers : RetryAnswers) : Option Connection :=
  if answers.connected then retryConnection state tenantID pipeline answers else none

/-- The payload of a row: the unsealed raw bytes of a redacted one. -/
def retryPayload (keys : Option (KeyRing Key)) (row : DLQRow) : Option Bytes :=
  if row.redacted && !row.rawMsg.isEmpty then
    keys.bind fun ring => ring.decrypt service.cipher row.rawMsg
  else some row.entry.originalMsg

/-- The state after the retry has asked the pool, which it does once it has found the destination. -/
def retryGot (state : DlqState World Key Rule) (id : String) (destination : Option Connection) (connected : Bool) :
    DlqState World Key Rule :=
  match destination with
  | none => state
  | some destination => state.getConnector id destination.toConfig connected

/-- Asking the pool changes nothing but the pool. -/
theorem retryGot_eq (state : DlqState World Key Rule) (id : String) (destination : Option Connection)
    (connected : Bool) : ∃ pooled, retryGot state id destination connected = { state with pooled := pooled } := by
  cases destination with
  | none => exact ⟨state.pooled, rfl⟩
  | some destination => exact ⟨_, rfl⟩

/-- `Service.Retry`. The attempt is counted before the destination is looked up, and the payload goes over the connector
of the pool. -/
def retry (state : DlqState World Key Rule) (tenantID id : String) (answers : RetryAnswers)
    (world : World) : RetryResult × DlqState World Key Rule :=
  match service.loadRetry state tenantID id answers with
  | .error result => (result, state)
  | .ok (held, pipeline) =>
    let counted := if answers.counted then state.incrementRetry tenantID id else state
    let got := retryGot counted held.row.id (retryConnection state tenantID pipeline answers) answers.connected
    match retryDestination state tenantID pipeline answers,
        service.retryPayload state.keys held.row with
    | some destination, some payload =>
      (if answers.sent then .succeeded else .failed,
        { got with
          log := got.log ++
            [{ payload := payload
               config := (state.pooled held.row.id).getD destination.toConfig
               message := held.message
               executor := Store.startPipeline service.builder service.payloadHash state.store
                 pipeline
               world := world }] })
    | _, _ => (.failed, got)

/-- What `attemptOne` writes after its `Retry`: no further attempt after a success or when the
cap is reached, else one after the backoff. -/
def rescheduled (state : DlqState World Key Rule) (row : DLQRow) (now jitter : Int) :
    RetryResult → Option Int
  | .succeeded | .maxRetries => none
  | .failed =>
    let base := match state.store.pipelines.find? fun pipeline =>
        pipeline.id = row.entry.pipelineID with
      | some pipeline => pipeline.retryBackoffMs
      | none => 0
    some (now + backoffDelay row.retryCount base + jitter)

/-- The tenant `attemptOne` retries a row in. -/
def reapTenant (row : DLQRow) : String :=
  if row.entry.tenantID = "" then defaultTenantID else row.entry.tenantID

/-- `attemptOne`; `written` says whether the new schedule could be stored. -/
def attemptOne (state : DlqState World Key Rule) (row : DLQRow) (answers : RetryAnswers)
    (world : World) (now jitter : Int) (written : Bool) : DlqState World Key Rule :=
  let (result, after) := service.retry state (reapTenant row) row.id answers world
  if written then
    after.scheduleRetry (reapTenant row) row.id (rescheduled after row now jitter result)
  else after

/-- One round of the loop of `BulkRetry`: a row that was sent is deleted. -/
def bulkOne (state : DlqState World Key Rule) (tenantID id : String) (answers : RetryAnswers)
    (world : World) (deleted : Bool) : DlqState World Key Rule :=
  let (result, after) := service.retry state tenantID id answers world
  if result = .succeeded ∧ deleted = true then after.delete tenantID id else after

end DlqService

/-! ### The step machine -/

/-- What happens in a step: a failed message is pushed, an operator retries or deletes a row, a
bulk retry or a sweep starts, does its next row or ends, rows are purged, and the stored
pipelines, the redaction rules or the master keys change. `BulkRetry` gets its ids from a
filtered query, here any list. The pool drops a connector that has been idle or does not answer. -/
inductive DlqLabel (World Key Rule : Type)
  | push (entry : DLQEntry) (answers : PushAnswers)
  | retry (tenantID id : String) (answers : RetryAnswers) (world : World)
  | startBulk (job : Nat) (tenantID : String) (ids : List String)
  | bulkNext (job : Nat) (answers : RetryAnswers) (world : World) (deleted : Bool)
  | startReap (job : Nat) (now : Int) (limit : Nat)
  | reapNext (job : Nat) (answers : RetryAnswers) (world : World) (now jitter : Int)
      (written : Bool)
  | finish (job : Nat)
  | delete (tenantID id : String)
  | purge (keep : DLQRow → Bool)
  | write (change : Write)
  | setRules (pipelineID : String) (rules : List Rule)
  | addKey (version : Nat) (key : Key)
  | unpool (id : String)

namespace DlqService

variable {World Document Key Rule : Type} (service : DlqService World Document Key Rule)

/-- One step of the service and of what surrounds it. -/
def step (state : DlqState World Key Rule) :
    DlqLabel World Key Rule → Option (DlqState World Key Rule)
  | .push entry answers => some (service.push state entry answers)
  | .retry tenantID id answers world => some (service.retry state tenantID id answers world).2
  | .startBulk job tenantID ids =>
    if state.jobs job = .idle then some (state.setJob job (.bulk tenantID ids)) else none
  | .bulkNext job answers world deleted =>
    match state.jobs job with
    | .bulk tenantID (id :: rest) =>
      some ((service.bulkOne state tenantID id answers world deleted).setJob job
        (.bulk tenantID rest))
    | _ => none
  | .startReap job now limit =>
    if state.jobs job = .idle then some (state.setJob job (.reaping (state.listDue now limit)))
    else none
  | .reapNext job answers world now jitter written =>
    match state.jobs job with
    | .reaping (row :: rest) =>
      some ((service.attemptOne state row answers world now jitter written).setJob job
        (.reaping rest))
    | _ => none
  | .finish job => some (state.setJob job .idle)
  | .delete tenantID id => some (state.delete tenantID id)
  | .purge keep => some { state with rows := state.rows.filter fun held => keep held.row }
  | .write change => some { state with store := state.store.apply change }
  | .setRules pipelineID rules =>
    some { state with rules := Function.update state.rules pipelineID rules }
  | .addKey version key =>
    some { state with keys := state.keys.map fun ring => ring.addKey version key }
  | .unpool id => some { state with pooled := Function.update state.pooled id none }

/-- The `Retry` a step makes, if it makes one. -/
def retried (state : DlqState World Key Rule) :
    DlqLabel World Key Rule → Option (String × String × RetryAnswers × World)
  | .retry tenantID id answers world => some (tenantID, id, answers, world)
  | .bulkNext job answers world _ =>
    match state.jobs job with
    | .bulk tenantID (id :: _) => some (tenantID, id, answers, world)
    | _ => none
  | .reapNext job answers world _ _ _ =>
    match state.jobs job with
    | .reaping (row :: _) => some (reapTenant row, row.id, answers, world)
    | _ => none
  | _ => none

end DlqService

end MqConnector
