/-
This file models what the evaluator of the alerting rules reads: the snapshot of the
metrics store, the ring of earlier snapshots behind `rate`, and the samples that are made
of a snapshot.

Times are in nanoseconds, and floating-point numbers are exact. Of the calls that count
messages, only `Register` and `RecordSuccess` are here.
-/

import MqConnector.Expressions

namespace MqConnector

namespace Metrics

/-! ### The store -/

/-- A bucket with its bound in milliseconds. -/
structure HistogramBucket where
  le : ℚ
  count : Nat
  deriving DecidableEq

/-- The counters of one pipeline. -/
structure Pipeline where
  pipelineID : String
  sourceQueue : String := ""
  destQueue : String := ""
  messagesProcessed : Int := 0
  messagesFailed : Int := 0
  bytesProcessed : Int := 0
  dedupSkipped : Int := 0
  validateAttempts : Int := 0
  validateFailures : Int := 0
  shadowSent : Int := 0
  shadowFailed : Int := 0
  avgLatencyMs : ℚ := 0
  status : String := "connected"
  sourceDepth : Int := -1
  latencyHistogram : List HistogramBucket := []
  deriving DecidableEq

/-- The bounds of the latency histogram. -/
def latencyBuckets : List ℚ :=
  [1 / 2, 1, 5 / 2, 5, 10, 25, 50, 100, 250, 500, 1000, 2500, 5000, 10000]

def maxFloat64 : ℚ :=
  2 ^ 1024 - 2 ^ 971

/-- `entry`: the counts are one for each bound. -/
structure Entry where
  data : Pipeline
  latencyBucketCounts : List Nat
  sized : latencyBucketCounts.length = latencyBuckets.length

/-- The histogram as it is put into a snapshot; every message is in the last bucket. -/
def Entry.histogram (entry : Entry) : List HistogramBucket :=
  ((latencyBuckets.zip entry.latencyBucketCounts).map fun bucket => ⟨bucket.1, bucket.2⟩) ++
    [⟨maxFloat64, (entry.data.messagesProcessed % 2 ^ 64).toNat⟩]

/-- An entry as it is shown. -/
def Entry.snapshot (entry : Entry) : Pipeline :=
  { entry.data with latencyHistogram := entry.histogram }

/-- `metrics.Store`: every pipeline is registered under its own id. -/
structure Store where
  pipelines : Std.ExtTreeMap String Entry
  named : ∀ (id : String) (entry : Entry), pipelines[id]? = some entry → entry.data.pipelineID = id

/-- All entries as they are shown. -/
def Store.snapshot (store : Store) : Std.ExtTreeMap String Pipeline :=
  store.pipelines.map fun _ entry => entry.snapshot

/-! ### Calls -/

/-- `entry`, with the sums that no snapshot shows. -/
structure LiveEntry extends Entry where
  totalLatencyMs : ℚ := 0
  latencySumMs : ℚ := 0

/-- The entries of a store that calls are made on. -/
abbrev LiveStore := Std.ExtTreeMap String LiveEntry

/-- `Register` starts an entry anew. -/
def LiveStore.register (store : LiveStore) (pipelineID sourceQueue destQueue : String) : LiveStore :=
  store.insert pipelineID {
    data := { pipelineID, sourceQueue, destQueue }
    latencyBucketCounts := List.replicate latencyBuckets.length 0
    sized := List.length_replicate }

/-- A call of `Store.RecordSuccess`. -/
structure Success where
  pipelineID : String
  bytes : Int
  latencyMs : ℚ

/-- The body of `Store.RecordSuccess` once the entry is found. -/
def LiveEntry.recordSuccess (entry : LiveEntry) (call : Success) : LiveEntry :=
  let processed := (entry.data.messagesProcessed + 1).bmod (2 ^ 64)
  let totalLatencyMs := entry.totalLatencyMs + call.latencyMs
  { data := { entry.data with
      messagesProcessed := processed
      bytesProcessed := (entry.data.bytesProcessed + call.bytes).bmod (2 ^ 64)
      avgLatencyMs := totalLatencyMs / processed }
    totalLatencyMs
    latencySumMs := entry.latencySumMs + call.latencyMs
    latencyBucketCounts := (latencyBuckets.zip entry.latencyBucketCounts).map fun bucket =>
      if call.latencyMs ≤ bucket.1 then (bucket.2 + 1) % 2 ^ 64 else bucket.2
    sized := by rw [List.length_map, List.length_zip, entry.sized, min_self] }

/-- `RecordSuccess` counts into the entry, if there is one. -/
def LiveStore.recordSuccess (store : LiveStore) (call : Success) : LiveStore :=
  match store[call.pipelineID]? with
  | none => store
  | some entry => store.insert call.pipelineID (entry.recordSuccess call)

/-! ### The ring -/

/-- The counters at one instant. -/
structure HistoryFrame where
  time : Int
  pipelines : Std.ExtTreeMap String Pipeline

/-- `metrics.History`: the size of the ring, and the frames, the oldest first. -/
structure History where
  keep : Nat
  frames : List HistoryFrame := []

/-- A frame is added, and the oldest dropped beyond the capacity. -/
def History.sample (history : History) (time : Int) (store : Store) : History :=
  let frames := history.frames ++ [⟨time, store.snapshot⟩]
  { history with
    frames := if history.keep < frames.length then frames.drop (frames.length - history.keep) else frames }

/-- The value of a metric by its name. -/
def pipelineMetricValue (pipeline : Pipeline) (metric : String) : ℚ :=
  match metric with
  | "mqconnector_messages_processed_total" => pipeline.messagesProcessed
  | "mqconnector_messages_failed_total" => pipeline.messagesFailed
  | "mqconnector_bytes_processed_total" => pipeline.bytesProcessed
  | "mqconnector_dedup_skipped_total" => pipeline.dedupSkipped
  | "mqconnector_validate_attempts_total" => pipeline.validateAttempts
  | "mqconnector_validate_failures_total" => pipeline.validateFailures
  | "mqconnector_shadow_sent_total" => pipeline.shadowSent
  | "mqconnector_shadow_failed_total" => pipeline.shadowFailed
  | "mqconnector_avg_latency_ms" => pipeline.avgLatencyMs
  | "mqconnector_source_depth" => pipeline.sourceDepth
  | _ => 0

/-- `History.ValueAt`: the newest frame that is not after the target. -/
def History.valueAt (history : History) (now : Int) (metric pipelineID : String) (ago : Int) : Option ℚ :=
  let target := now + (-ago).bmod (2 ^ 64)
  (history.frames.reverse.find? fun frame => !decide (target < frame.time)).bind fun frame =>
    frame.pipelines[pipelineID]?.map fun pipeline => pipelineMetricValue pipeline metric

end Metrics

namespace Slo



/-! ### Samples of a snapshot -/

/-- A sample under a metric's name. -/
def emitScalar (name : String) (labels : Labels) (value : ℚ) : LabelSample ℚ where
  labels := labels.insert "__name__" name
  value := value

/-- `formatLEBound`; the bounds have at most one digit after the point. -/
def formatLEBound (le : ℚ) : String :=
  if (10 ^ 100) ^ 3 < le then "+Inf"
  else
    let tenths := (le * 10).floor
    if tenths % 10 = 0 then toString (tenths / 10)
    else toString (tenths / 10) ++ "." ++ toString (tenths % 10)

/-- The labels of every sample of a pipeline. -/
def baseLabels (pipeline : Metrics.Pipeline) : Labels :=
  (((∅ : Labels).insert "pipeline_id" pipeline.pipelineID).insert "source" pipeline.sourceQueue).insert
    "dest" pipeline.destQueue

/-- The body of the loop of `SnapshotFromMetricsStore`. -/
def pipelineSamples (pipeline : Metrics.Pipeline) : List (LabelSample ℚ) :=
  let base := baseLabels pipeline
  [emitScalar "mqconnector_messages_processed_total" base pipeline.messagesProcessed,
    emitScalar "mqconnector_messages_failed_total" base pipeline.messagesFailed,
    emitScalar "mqconnector_bytes_processed_total" base pipeline.bytesProcessed,
    emitScalar "mqconnector_dedup_skipped_total" base pipeline.dedupSkipped,
    emitScalar "mqconnector_validate_attempts_total" base pipeline.validateAttempts,
    emitScalar "mqconnector_validate_failures_total" base pipeline.validateFailures,
    emitScalar "mqconnector_shadow_sent_total" base pipeline.shadowSent,
    emitScalar "mqconnector_shadow_failed_total" base pipeline.shadowFailed,
    emitScalar "mqconnector_avg_latency_ms" base pipeline.avgLatencyMs,
    emitScalar "mqconnector_pipeline_up" (base.insert "status" pipeline.status)
      (if pipeline.status = "connected" then 1 else 0)] ++
  (if 0 ≤ pipeline.sourceDepth then
    [emitScalar "mqconnector_source_depth"
      (((∅ : Labels).insert "pipeline_id" pipeline.pipelineID).insert "source" pipeline.sourceQueue)
      pipeline.sourceDepth]
  else []) ++
  pipeline.latencyHistogram.map fun bucket =>
    emitScalar "mqconnector_pipeline_latency_ms_bucket" (base.insert "le" (formatLEBound bucket.le))
      bucket.count

/-- `SnapshotFromMetricsStore`, with the uptime of the store in seconds. -/
def snapshotFromMetricsStore (store : Metrics.Store) (uptime : ℚ) : List (LabelSample ℚ) :=
  store.snapshot.toList.flatMap (fun entry => pipelineSamples entry.2) ++
    [emitScalar "mqconnector_uptime_seconds" ∅ uptime]

/-- `StoreSource.ValueAt`: the history knows a series by its metric and its pipeline. -/
def storeValueAt (history : Option Metrics.History) (now : Int) (metric : String) (labels : Labels) (ago : Int) :
    Option ℚ :=
  match history with
  | none => none
  | some history =>
    let pipelineID := labels.getD "pipeline_id" ""
    if pipelineID = "" then none else history.valueAt now metric pipelineID ago

end Slo

end MqConnector
