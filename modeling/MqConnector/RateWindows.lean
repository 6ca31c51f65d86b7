/-
This file asks what `rate` measures.

For a series and a window, `rate` should be the growth of the series since an instant one
window ago, as near as the samples are. Three things decide it. The ring must hold a
frame that old, and the newest frame of `keep` is up to one interval old itself, so it
reaches back by `(keep - 1) * interval` and what has passed since that frame. The history
must know the metric, and it knows no bucket of a latency histogram: it answers `0`
there, and the rate is the whole count over the window. And if there is no frame that
old, the rate is `0`.
-/

import Mathlib.Data.List.Induction
import Mathlib.Data.List.Nodup
import MqConnector.Metrics

namespace MqConnector

namespace Slo

/-! ### Cumulative series -/

/-- The metrics that count something. -/
inductive Counter
  | messagesProcessed | messagesFailed | bytesProcessed | dedupSkipped
  | validateAttempts | validateFailures | shadowSent | shadowFailed
  deriving DecidableEq

/-- A counter as its metric is called. -/
def Counter.name : Counter → String
  | .messagesProcessed => "mqconnector_messages_processed_total"
  | .messagesFailed => "mqconnector_messages_failed_total"
  | .bytesProcessed => "mqconnector_bytes_processed_total"
  | .dedupSkipped => "mqconnector_dedup_skipped_total"
  | .validateAttempts => "mqconnector_validate_attempts_total"
  | .validateFailures => "mqconnector_validate_failures_total"
  | .shadowSent => "mqconnector_shadow_sent_total"
  | .shadowFailed => "mqconnector_shadow_failed_total"

/-- A counter of a pipeline. -/
def Counter.value (pipeline : Metrics.Pipeline) : Counter → Int
  | .messagesProcessed => pipeline.messagesProcessed
  | .messagesFailed => pipeline.messagesFailed
  | .bytesProcessed => pipeline.bytesProcessed
  | .dedupSkipped => pipeline.dedupSkipped
  | .validateAttempts => pipeline.validateAttempts
  | .validateFailures => pipeline.validateFailures
  | .shadowSent => pipeline.shadowSent
  | .shadowFailed => pipeline.shadowFailed

/-- The metric of the buckets of the latency histogram. -/
def bucketMetric : String :=
  "mqconnector_pipeline_latency_ms_bucket"

/-- The metric is cumulative: a counter, or the buckets. -/
def Cumulative (metric : String) : Prop :=
  (∃ counter : Counter, metric = counter.name) ∨ metric = bucketMetric

def Counter.all : List Counter :=
  [.messagesProcessed, .messagesFailed, .bytesProcessed, .dedupSkipped, .validateAttempts,
    .validateFailures, .shadowSent, .shadowFailed]

theorem cumulative_iff {metric : String} :
    metric ∈ Counter.all.map Counter.name ∨ metric = bucketMetric ↔ Cumulative metric := by
  refine or_congr_left ⟨?_, ?_⟩
  · intro member
    obtain ⟨counter, -, same⟩ := List.mem_map.mp member
    exact ⟨counter, same.symm⟩
  · rintro ⟨counter, rfl⟩
    refine List.mem_map_of_mem ?_
    cases counter <;> decide

instance (metric : String) : Decidable (Cumulative metric) :=
  decidable_of_iff _ cumulative_iff

/-- The samples of the cumulative series of a pipeline. -/
inductive Emits (pipeline : Metrics.Pipeline) : String → LabelSample ℚ → Prop
  | counter (counter : Counter) :
      Emits pipeline counter.name
        (emitScalar counter.name (baseLabels pipeline) (counter.value pipeline))
  | bucket {bucket : Metrics.HistogramBucket} (member : bucket ∈ pipeline.latencyHistogram) :
      Emits pipeline bucketMetric
        (emitScalar bucketMetric ((baseLabels pipeline).insert "le" (formatLEBound bucket.le)) bucket.count)

section Series

variable {pipeline : Metrics.Pipeline} {metric : String} {sample : LabelSample ℚ}

theorem emitScalar_name (name : String) (labels : Labels) (value : ℚ) :
    (emitScalar name labels value).labels["__name__"]? = some name :=
  Std.ExtTreeMap.getElem?_insert_self

theorem pipelineMetricValue_name (counter : Counter) :
    Metrics.pipelineMetricValue pipeline counter.name = counter.value pipeline := by
  cases counter <;> rfl

theorem pipelineMetricValue_bucket : Metrics.pipelineMetricValue pipeline bucketMetric = 0 :=
  rfl

theorem mem_pipelineSamples (emits : Emits pipeline metric sample) : sample ∈ pipelineSamples pipeline := by
  unfold pipelineSamples
  dsimp only
  cases emits with
  | counter counter =>
    refine List.mem_append_left _ (List.mem_append_left _ ?_)
    cases counter <;> simp [Counter.name, Counter.value]
  | bucket member => exact List.mem_append_right _ (List.mem_map_of_mem member)

theorem emits_of_mem (member : sample ∈ pipelineSamples pipeline)
    (named : sample.labels["__name__"]? = some metric) (cumulative : Cumulative metric) :
    Emits pipeline metric sample := by
  have nameOf : ∀ {name : String} {labels : Labels} {value : ℚ},
      sample = emitScalar name labels value → name = metric := by
    rintro name labels value rfl
    exact Option.some.inj ((emitScalar_name name labels value).symm.trans named)
  have counts : ∀ counter : Counter,
      sample = emitScalar counter.name (baseLabels pipeline) (counter.value pipeline) →
        Emits pipeline metric sample := by
    intro counter same
    rw [← nameOf same, same]
    exact .counter counter
  have excluded : ∀ {name : String} {labels : Labels} {value : ℚ},
      sample = emitScalar name labels value → ¬ Cumulative name → Emits pipeline metric sample := by
    intro name labels value same other
    rw [nameOf same] at other
    exact absurd cumulative other
  rcases List.mem_append.mp member with front | bucketed
  · rcases List.mem_append.mp front with scalars | depth
    · simp only [List.mem_cons, List.not_mem_nil, or_false] at scalars
      rcases scalars with same | same | same | same | same | same | same | same | same | same
      · exact counts .messagesProcessed same
      · exact counts .messagesFailed same
      · exact counts .bytesProcessed same
      · exact counts .dedupSkipped same
      · exact counts .validateAttempts same
      · exact counts .validateFailures same
      · exact counts .shadowSent same
      · exact counts .shadowFailed same
      · exact excluded same (by decide)
      · exact excluded same (by decide)
    · split at depth
      · exact excluded (List.mem_singleton.mp depth) (by decide)
      · exact absurd depth List.not_mem_nil
  · obtain ⟨bucket, among, same⟩ := List.mem_map.mp bucketed
    rw [← nameOf same.symm, ← same]
    exact .bucket among

theorem getElem?_insert_ne {labels : Labels} {name other value : String} (different : name ≠ other) :
    (labels.insert name value)[other]? = labels[other]? := by
  rw [Std.ExtTreeMap.getElem?_insert, if_neg]
  rw [Std.compare_eq_iff_eq]
  exact different

theorem baseLabels_pipelineID : (baseLabels pipeline)["pipeline_id"]? = some pipeline.pipelineID := by
  unfold baseLabels
  rw [getElem?_insert_ne (by decide), getElem?_insert_ne (by decide),
    Std.ExtTreeMap.getElem?_insert_self]

theorem Emits.pipelineID (emits : Emits pipeline metric sample) :
    sample.labels["pipeline_id"]? = some pipeline.pipelineID := by
  cases emits with
  | counter counter =>
    rw [emitScalar, getElem?_insert_ne (by decide), baseLabels_pipelineID]
  | bucket member =>
    rw [emitScalar, getElem?_insert_ne (by decide), getElem?_insert_ne (by decide), baseLabels_pipelineID]

theorem Emits.name (emits : Emits pipeline metric sample) : sample.labels["__name__"]? = some metric := by
  cases emits with
  | counter counter => exact emitScalar_name _ _ _
  | bucket member => exact emitScalar_name _ _ _

theorem histogram_bounds (entry : Metrics.Entry) :
    entry.histogram.map Metrics.HistogramBucket.le = Metrics.latencyBuckets ++ [Metrics.maxFloat64] := by
  unfold Metrics.Entry.histogram
  rw [List.map_append, List.map_map]
  exact congrArg (· ++ _) (List.map_fst_zip (le_of_eq entry.sized.symm))

theorem formatLEBound_distinct :
    ((Metrics.latencyBuckets ++ [Metrics.maxFloat64]).map formatLEBound).Nodup := by
  decide +kernel

theorem bucket_unique {entry : Metrics.Entry} {first second : Metrics.HistogramBucket}
    (here : first ∈ entry.histogram) (there : second ∈ entry.histogram)
    (same : formatLEBound first.le = formatLEBound second.le) : first = second := by
  have distinct : (entry.histogram.map (formatLEBound ∘ Metrics.HistogramBucket.le)).Nodup := by
    rw [← List.map_map, histogram_bounds]
    exact formatLEBound_distinct
  exact List.inj_on_of_nodup_map distinct here there same

theorem counter_ne_bucket (counter : Counter) : counter.name ≠ bucketMetric := by
  cases counter <;> decide

theorem Emits.counter_or_bucket {labels : Labels} {value : ℚ}
    (emits : Emits pipeline metric ⟨labels, value⟩) :
    (∃ counter : Counter, metric = counter.name ∧ value = counter.value pipeline) ∨
      metric = bucketMetric ∧ ∃ bucket ∈ pipeline.latencyHistogram,
        labels["le"]? = some (formatLEBound bucket.le) ∧ value = bucket.count := by
  generalize shape : LabelSample.mk labels value = sample at emits
  cases emits with
  | counter counter => exact Or.inl ⟨counter, rfl, congrArg LabelSample.value shape⟩
  | @bucket bucket member =>
    refine Or.inr ⟨rfl, bucket, member, ?_, congrArg LabelSample.value shape⟩
    have same : labels = _ := congrArg LabelSample.labels shape
    rw [same, emitScalar, getElem?_insert_ne (by decide), Std.ExtTreeMap.getElem?_insert_self]

theorem Emits.eq_metricValue {labels : Labels} {value : ℚ} (emits : Emits pipeline metric ⟨labels, value⟩)
    (counts : ∃ counter : Counter, metric = counter.name) :
    value = Metrics.pipelineMetricValue pipeline metric := by
  rcases emits.counter_or_bucket with ⟨counter, rfl, rfl⟩ | ⟨isBucket, -⟩
  · exact (pipelineMetricValue_name counter).symm
  · obtain ⟨counter, isCounter⟩ := counts
    exact absurd (isCounter.symm.trans isBucket) (counter_ne_bucket counter)

theorem Emits.unique {entry : Metrics.Entry} {labels : Labels} {first second : ℚ}
    (here : Emits entry.snapshot metric ⟨labels, first⟩)
    (there : Emits entry.snapshot metric ⟨labels, second⟩) : first = second := by
  rcases here.counter_or_bucket with ⟨counter, rfl, rfl⟩ | ⟨rfl, bucket, member, text, rfl⟩
  · rcases there.counter_or_bucket with ⟨other, same, rfl⟩ | ⟨same, -⟩
    · rw [← pipelineMetricValue_name, ← pipelineMetricValue_name, same]
    · exact absurd same (counter_ne_bucket counter)
  · rcases there.counter_or_bucket with ⟨other, same, -⟩ | ⟨-, bucket', member', text', rfl⟩
    · exact absurd same.symm (counter_ne_bucket other)
    · rw [bucket_unique member member' (Option.some.inj (text.symm.trans text'))]

theorem Emits.stays {entry earlier : Metrics.Entry} {labels : Labels} {value : ℚ}
    (emits : Emits entry.snapshot metric ⟨labels, value⟩)
    (base : baseLabels earlier.snapshot = baseLabels entry.snapshot) :
    ∃ previous, Emits earlier.snapshot metric ⟨labels, previous⟩ := by
  generalize shape : LabelSample.mk labels value = sample at emits
  cases emits with
  | counter counter =>
    have same : labels = _ := congrArg LabelSample.labels shape
    refine ⟨counter.value earlier.snapshot, ?_⟩
    rw [same, ← base]
    exact .counter counter
  | @bucket bucket member =>
    have same : labels = _ := congrArg LabelSample.labels shape
    -- the bucket with the same bound is in every histogram
    have bound : bucket.le ∈ earlier.histogram.map Metrics.HistogramBucket.le := by
      rw [histogram_bounds, ← histogram_bounds entry]
      exact List.mem_map_of_mem member
    obtain ⟨other, there, equal⟩ := List.mem_map.mp bound
    refine ⟨other.count, ?_⟩
    rw [same, ← base, ← equal]
    exact @Emits.bucket earlier.snapshot other there

end Series

/-! ### Runs -/

/-- A history that was sampled every interval, and the store at the time of an evaluation. -/
structure SampledRun where
  interval : Int
  keep : Nat
  start : Int
  samples : List (Int × Metrics.Store)
  now : Int
  store : Metrics.Store
  uptime : ℚ
  ticking : 0 < interval
  kept : 0 < keep
  regular : ∀ (index : Nat) (sample : Int × Metrics.Store), samples[index]? = some sample →
    sample.1 = start + index * interval
  sampled : start + (samples.length - 1) * interval ≤ now
  recent : now < start + samples.length * interval

namespace SampledRun

variable (run : SampledRun)

/-- The ring after the samples. -/
def history : Metrics.History :=
  run.samples.foldl (fun history sample => history.sample sample.1 sample.2) { keep := run.keep }

/-- What an expression is evaluated in. -/
def context (recordings : String → Option (Except String (List (LabelSample ℚ)))) : EvalContext ℚ where
  current := snapshotFromMetricsStore run.store run.uptime
  historyAt := some (storeValueAt (some run.history) run.now)
  recordings := recordings

def latest : Int :=
  run.start + (run.samples.length - 1) * run.interval

/-- The ring holds a frame as old as the window. -/
def Holds (window : Int) : Prop :=
  window ≤ (run.keep - 1) * run.interval + (run.now - run.latest)

instance (window : Int) : Decidable (run.Holds window) :=
  inferInstanceAs (Decidable (_ ≤ _))

/-- The sample was taken one window ago, or up to one interval earlier. -/
def InWindow (window : Int) (sample : Int × Metrics.Store) : Prop :=
  run.now - window - run.interval < sample.1 ∧ sample.1 ≤ run.now - window

def frame (sample : Int × Metrics.Store) : Metrics.HistoryFrame where
  time := sample.1
  pipelines := sample.2.snapshot

theorem foldl_sample (keep : Nat) (samples : List (Int × Metrics.Store)) :
    samples.foldl (fun history sample => history.sample sample.1 sample.2) ({ keep } : Metrics.History) =
      ⟨keep, (samples.map frame).drop (samples.length - keep)⟩ := by
  induction samples using List.reverseRecOn with
  | nil =>
    rw [List.map_nil, List.drop_nil]
    rfl
  | append_singleton samples sample hypothesis =>
    have whole : (samples.map frame).drop (samples.length - keep) ++ [frame sample] =
        ((samples ++ [sample]).map frame).drop (samples.length - keep) := by
      rw [List.map_append, List.map_singleton, List.drop_append_of_le_length]
      rw [List.length_map]
      omega
    rw [List.foldl_append, hypothesis, List.foldl_cons, List.foldl_nil, Metrics.History.sample]
    dsimp only
    rw [show (⟨sample.1, sample.2.snapshot⟩ : Metrics.HistoryFrame) = frame sample from rfl, whole]
    congr 1
    split
    · rename_i full
      rw [List.length_drop, List.length_map, List.length_append, List.length_singleton] at full ⊢
      rw [List.drop_drop]
      congr 1
      omega
    · rename_i spare
      rw [List.length_drop, List.length_map, List.length_append, List.length_singleton] at spare
      rw [List.length_append, List.length_singleton]
      congr 1
      omega

theorem history_frames :
    run.history.frames = (run.samples.map frame).drop (run.samples.length - run.keep) :=
  congrArg Metrics.History.frames (foldl_sample run.keep run.samples)

/-- A run that is longer than the window has a sample in it. -/
theorem exists_inWindow {window : Int} (positive : 0 < window)
    (long : window + run.interval < run.now - run.start) :
    ∃ sample ∈ run.samples, run.InWindow window sample := by
  have ticking := run.ticking
  have recent := run.recent
  obtain ⟨quotient, isQuotient⟩ : ∃ quotient, quotient = (run.now - window - run.start) / run.interval :=
    ⟨_, rfl⟩
  have low : quotient * run.interval ≤ run.now - window - run.start :=
    isQuotient ▸ Int.ediv_mul_le _ ticking.ne'
  have high : run.now - window - run.start < (quotient + 1) * run.interval :=
    isQuotient ▸ Int.lt_ediv_add_one_mul_self _ ticking
  have nonnegative : 0 ≤ quotient := isQuotient ▸ Int.ediv_nonneg (by omega) ticking.le
  have inside : quotient < run.samples.length := by
    have bounded : quotient * run.interval < run.samples.length * run.interval := by omega
    exact lt_of_mul_lt_mul_right bounded ticking.le
  obtain ⟨index, rfl⟩ := Int.eq_ofNat_of_zero_le nonnegative
  have indexed : index < run.samples.length := by omega
  have time := run.regular index _ (List.getElem?_eq_getElem indexed)
  have expanded : ((index : Int) + 1) * run.interval = index * run.interval + run.interval := by ring
  exact ⟨run.samples[index], List.getElem_mem indexed, by omega, by omega⟩

theorem split_of_inWindow {window : Int} {sample : Int × Metrics.Store} (member : sample ∈ run.samples)
    (inWindow : run.InWindow window sample) :
    ∃ front back, run.samples = front ++ sample :: back ∧
      (∀ later ∈ back, run.now - window < later.1) ∧ (run.Holds window ↔ back.length < run.keep) := by
  have ticking := run.ticking
  obtain ⟨early, old⟩ := inWindow
  obtain ⟨front, back, split⟩ := List.append_of_mem member
  have time : sample.1 = run.start + front.length * run.interval := by
    refine run.regular front.length sample ?_
    rw [split, List.getElem?_append_right (le_refl _), Nat.sub_self]
    rfl
  have length : (run.samples.length : Int) = front.length + back.length + 1 := by
    rw [split, List.length_append, List.length_cons]
    omega
  refine ⟨front, back, split, ?_, ?_⟩
  · intro later among
    obtain ⟨place, found⟩ := List.mem_iff_getElem?.mp among
    have laterTime : later.1 = run.start + (front.length + (place + 1) : Nat) * run.interval := by
      refine run.regular _ later ?_
      rw [split, List.getElem?_append_right (by omega), Nat.add_sub_cancel_left, List.getElem?_cons_succ]
      exact found
    have steps : run.interval ≤ ((place + 1 : Nat) : Int) * run.interval :=
      le_mul_of_one_le_left ticking.le (by omega)
    have expanded : ((front.length + (place + 1) : Nat) : Int) * run.interval =
        front.length * run.interval + ((place + 1 : Nat) : Int) * run.interval := by
      push_cast
      ring
    omega
  · unfold Holds latest
    rw [length]
    -- the oldest frame of the ring is `keep - 1 - back.length` intervals before this one
    have oldest : window ≤ (run.keep - 1) * run.interval +
        (run.now - (run.start + (front.length + back.length + 1 - 1) * run.interval)) ↔
          sample.1 + ((back.length : Int) + 1 - run.keep) * run.interval ≤ run.now - window := by
      rw [time]
      constructor
      · intro holds
        linarith
      · intro holds
        linarith
    rw [oldest]
    constructor
    · intro holds
      by_contra full
      have steps : run.interval ≤ ((back.length : Int) + 1 - run.keep) * run.interval :=
        le_mul_of_one_le_left ticking.le (by omega)
      omega
    · intro spare
      have steps : ((back.length : Int) + 1 - run.keep) * run.interval ≤ 0 :=
        mul_nonpos_of_nonpos_of_nonneg (by omega) ticking.le
      omega

theorem valueAt_history {window : Int} (positive : 0 < window) (fits : window < 2 ^ 63)
    {front back : List (Int × Metrics.Store)} {sample : Int × Metrics.Store}
    (split : run.samples = front ++ sample :: back) (old : sample.1 ≤ run.now - window)
    (young : ∀ later ∈ back, run.now - window < later.1) (metric pipelineID : String) :
    run.history.valueAt run.now metric pipelineID window =
      if back.length < run.keep then
        sample.2.pipelines[pipelineID]?.map fun entry =>
          Metrics.pipelineMetricValue entry.snapshot metric
      else none := by
  have negated : (-window).bmod (2 ^ 64) = -window :=
    Int.bmod_eq_of_le (by omega) (by omega)
  have newer : ∀ later ∈ back.map frame,
      (!decide (run.now + -window < later.time)) = false := by
    intro later member
    obtain ⟨other, among, rfl⟩ := List.mem_map.mp member
    have after := young other among
    rw [Bool.not_eq_false', decide_eq_true_iff]
    show run.now + -window < other.1
    omega
  unfold Metrics.History.valueAt
  dsimp only
  rw [negated, run.history_frames, split, List.length_append, List.length_cons, List.map_append,
    List.map_cons]
  split
  · rename_i held
    rw [List.drop_append_of_le_length (by rw [List.length_map]; omega), List.reverse_append,
      List.reverse_cons, List.append_assoc, List.find?_append,
      List.find?_eq_none.mpr fun later member =>
        Bool.not_eq_true _ ▸ newer later (List.mem_reverse.mp member), Option.none_or,
      List.singleton_append, List.find?_cons_of_pos, Option.bind_some]
    · show Option.map _ (Metrics.Store.snapshot sample.2)[pipelineID]? = _
      unfold Metrics.Store.snapshot
      rw [Std.ExtTreeMap.getElem?_map, Option.map_map]
      rfl
    · rw [Bool.not_eq_true', decide_eq_false_iff_not]
      show ¬ run.now + -window < sample.1
      omega
  · rename_i dropped
    rw [List.drop_append, List.drop_eq_nil_of_le (by rw [List.length_map]; omega), List.nil_append,
      List.length_map]
    rw [List.find?_eq_none.mpr, Option.bind_none]
    intro later member
    rw [List.mem_reverse] at member
    rw [Bool.not_eq_true]
    obtain ⟨rest, equal⟩ : ∃ rest, front.length + (back.length + 1) - run.keep - front.length = rest + 1 :=
      ⟨front.length + (back.length + 1) - run.keep - front.length - 1, by omega⟩
    rw [equal, List.drop_succ_cons] at member
    exact newer later (List.mem_of_mem_drop member)

end SampledRun

/-! ### What a rate means -/

/-- The store has this value for a series of the pipeline. -/
def HasValue (store : Metrics.Store) (pipelineID : String) (labels : Labels) (value : ℚ) : Prop :=
  ∃ entry, store.pipelines[pipelineID]? = some entry ∧ ⟨labels, value⟩ ∈ pipelineSamples entry.snapshot

/-- A cumulative series of a pipeline that stays registered with its queues. -/
structure Series (run : SampledRun) where
  pipelineID : String
  entry : Metrics.Entry
  metric : String
  labels : Labels
  current : ℚ
  registered : run.store.pipelines[pipelineID]? = some entry
  emitted : ⟨labels, current⟩ ∈ pipelineSamples entry.snapshot
  named : labels["__name__"]? = some metric
  cumulative : Cumulative metric
  stays : ∀ sample ∈ run.samples, ∃ earlier, sample.2.pipelines[pipelineID]? = some earlier ∧
    earlier.data.sourceQueue = entry.data.sourceQueue ∧ earlier.data.destQueue = entry.data.destQueue

/-- The range that a selector is written with. -/
structure Window (selector : VectorSelector) where
  duration : Duration
  positive : 0 < duration.nanoseconds
  parsed : parseDurationSeconds selector.duration = .ok ((duration.nanoseconds : ℚ) / 1000000000)

section Rate

variable {run : SampledRun} {selector : VectorSelector}

/-- The rate of the series is its growth, over the window, since a sample that was taken one window ago
or up to one interval earlier. -/
def RateMeans (run : SampledRun) (recordings : String → Option (Except String (List (LabelSample ℚ))))
    (selector : VectorSelector) (window : Window selector) (series : Series run) : Prop :=
  ∃ vector, evalRate toInt64 [.vectorSelector selector] (run.context recordings) = .ok vector ∧
    (∃ rate ∈ vector, rate.labels = copyLabelsWithout series.labels "__name__") ∧
    ∀ rate ∈ vector, rate.labels = copyLabelsWithout series.labels "__name__" →
      ∃ sample ∈ run.samples, run.InWindow window.duration.nanoseconds sample ∧
        ∃ previous, HasValue sample.2 series.pipelineID series.labels previous ∧
          rate.value = max 0 (series.current - previous) /
            ((window.duration.nanoseconds : ℚ) / 1000000000)

/-- When it is so: the ring holds a frame as old as the window and the series is a counter, or what is
read instead happens to give the same. -/
def Measured (run : SampledRun) (window : Int) (series : Series run) : Prop :=
  (run.Holds window ∧ series.pipelineID ≠ "" ∧ ∃ counter : Counter, series.metric = counter.name) ∨
    ∃ sample ∈ run.samples, run.InWindow window sample ∧
      ∃ previous, HasValue sample.2 series.pipelineID series.labels previous ∧
        (run.Holds window ∧ series.pipelineID ≠ "" ∧ (previous = 0 ∨ series.current = 0) ∨
          ¬ (run.Holds window ∧ series.pipelineID ≠ "") ∧ series.current ≤ previous)

theorem Series.emits (series : Series run) :
    Emits series.entry.snapshot series.metric ⟨series.labels, series.current⟩ :=
  emits_of_mem series.emitted series.named series.cumulative

theorem Series.labels_pipelineID (series : Series run) :
    series.labels["pipeline_id"]? = some series.pipelineID := by
  rw [← run.store.named _ _ series.registered]
  exact series.emits.pipelineID

theorem HasValue.emits {series : Series run} {store : Metrics.Store} {value : ℚ}
    (has : HasValue store series.pipelineID series.labels value) :
    ∃ entry, store.pipelines[series.pipelineID]? = some entry ∧
      Emits entry.snapshot series.metric ⟨series.labels, value⟩ := by
  obtain ⟨entry, registered, member⟩ := has
  exact ⟨entry, registered, emits_of_mem member series.named series.cumulative⟩

theorem Series.unique (series : Series run) {value : ℚ}
    (member : ⟨series.labels, value⟩ ∈ snapshotFromMetricsStore run.store run.uptime) :
    value = series.current := by
  rcases List.mem_append.mp member with ofPipeline | uptime
  · obtain ⟨⟨id, pipeline⟩, listed, emitted⟩ := List.mem_flatMap.mp ofPipeline
    have stored := Std.ExtTreeMap.mem_toList_iff_getElem?_eq_some.mp listed
    unfold Metrics.Store.snapshot at stored
    rw [Std.ExtTreeMap.getElem?_map] at stored
    obtain ⟨entry, registered, rfl⟩ := Option.map_eq_some_iff.mp stored
    have emits := emits_of_mem emitted series.named series.cumulative
    -- the label names the pipeline, and the store has it once
    have same : series.pipelineID = id := by
      refine Option.some.inj (series.labels_pipelineID.symm.trans ?_)
      rw [← run.store.named _ _ registered]
      exact emits.pipelineID
    rw [← same, series.registered] at registered
    rw [← Option.some.inj registered] at emits
    exact emits.unique series.emits
  · have same : series.labels = _ := congrArg LabelSample.labels (List.mem_singleton.mp uptime)
    have named := series.named
    rw [same] at named
    have other : "mqconnector_uptime_seconds" = series.metric :=
      Option.some.inj ((emitScalar_name _ _ _).symm.trans named)
    have gauge : ¬ Cumulative "mqconnector_uptime_seconds" := by decide
    exact absurd series.cumulative (other ▸ gauge)

theorem eq_of_copyLabelsWithout {first second : Labels} {metric : String}
    (here : first["__name__"]? = some metric) (there : second["__name__"]? = some metric)
    (same : copyLabelsWithout first "__name__" = copyLabelsWithout second "__name__") :
    first = second := by
  refine Std.ExtTreeMap.ext_getElem? fun name => ?_
  by_cases isName : "__name__" = name
  · rw [← isName, here, there]
  · have equal := congrArg (fun labels : Labels => labels[name]?) same
    simp only [copyLabelsWithout, Std.ExtTreeMap.getElem?_erase, Std.compare_eq_iff_eq, if_neg isName] at equal
    exact equal

theorem rateSample_labels (context : EvalContext ℚ) (name : String) (seconds : ℚ) (sample : LabelSample ℚ) :
    (rateSample toInt64 context name seconds sample).labels = sample.labels := by
  unfold rateSample
  dsimp only
  split
  · rfl
  · rfl

/-- The rate of the series, as it is computed. -/
def Series.rate (series : Series run) (window : Window selector)
    (recordings : String → Option (Except String (List (LabelSample ℚ)))) : LabelSample ℚ :=
  rateSample toInt64 (run.context recordings) selector.name
    ((window.duration.nanoseconds : ℚ) / 1000000000)
    ⟨copyLabelsWithout series.labels "__name__", series.current⟩

/-- The value of a rate over a sampled run. -/
theorem evalRate_series {recordings : String → Option (Except String (List (LabelSample ℚ)))}
    (window : Window selector) (series : Series run) (plain : recordings selector.name = none)
    (selects : selector.name = series.metric)
    (matched : matchesMatchers series.labels selector.matchers = true) :
    ∃ vector, evalRate toInt64 [.vectorSelector selector] (run.context recordings) = .ok vector ∧
      series.rate window recordings ∈ vector ∧
      ∀ rate ∈ vector, rate.labels = copyLabelsWithout series.labels "__name__" →
        rate = series.rate window recordings := by
  have given : selector.duration ≠ "" := by
    intro empty
    have parsed := window.parsed
    rw [empty] at parsed
    exact nomatch parsed
  have name : series.labels.getD "__name__" "" = selector.name := by
    rw [Std.ExtTreeMap.getD_eq_getD_getElem?, series.named, selects]
    rfl
  unfold evalRate evalSelector
  dsimp only
  rw [if_neg given, window.parsed]
  dsimp only [SampledRun.context]
  rw [plain]
  refine ⟨_, rfl, ?_, ?_⟩
  · refine List.mem_map.mpr ⟨_, List.mem_map.mpr ⟨⟨series.labels, series.current⟩, ?_, rfl⟩, rfl⟩
    refine List.mem_filter.mpr ⟨?_, ?_⟩
    · refine List.mem_append_left _ (List.mem_flatMap.mpr ⟨(series.pipelineID, _), ?_, series.emitted⟩)
      refine Std.ExtTreeMap.mem_toList_iff_getElem?_eq_some.mpr ?_
      unfold Metrics.Store.snapshot
      rw [Std.ExtTreeMap.getElem?_map, series.registered]
      rfl
    · rw [decide_eq_true name, matched]
      rfl
  · intro rate member same
    obtain ⟨selected, among, rfl⟩ := List.mem_map.mp member
    obtain ⟨sample, chosen, rfl⟩ := List.mem_map.mp among
    obtain ⟨emitted, passes⟩ := List.mem_filter.mp chosen
    have sampleName : sample.labels["__name__"]? = some series.metric := by
      have read := of_decide_eq_true (Bool.and_eq_true_iff.mp passes).1
      rw [Std.ExtTreeMap.getD_eq_getD_getElem?, selects] at read
      cases found : sample.labels["__name__"]? with
      | some text =>
        rw [found] at read
        exact congrArg some read
      | none =>
        -- no metric has the empty name
        rw [found] at read
        have empty : ¬ Cumulative "" := by decide
        exact absurd series.cumulative (read ▸ empty)
    have labels : sample.labels = series.labels := by
      exact eq_of_copyLabelsWithout sampleName series.named ((rateSample_labels ..).symm.trans same)
    have value : sample.value = series.current := series.unique (labels ▸ emitted)
    unfold Series.rate
    rw [← labels, ← value]
    rfl

theorem toInt64_window (window : Window selector) :
    toInt64 ((window.duration.nanoseconds : ℚ) / 1000000000 * 1000000000) =
      window.duration.nanoseconds := by
  have positive := window.positive
  have high := window.duration.high
  have whole : (window.duration.nanoseconds : ℚ) / 1000000000 * 1000000000 =
      (window.duration.nanoseconds : ℚ) := div_mul_cancel₀ _ (by norm_num)
  unfold toInt64
  dsimp only
  rw [whole, if_pos (Int.cast_nonneg positive.le), Rat.floor_intCast]
  exact if_pos ⟨by omega, high⟩

theorem cutOff_eq_max (growth : ℚ) : (if growth < 0 then 0 else growth) = max 0 growth := by
  split
  · rename_i negative
    exact (max_eq_left negative.le).symm
  · rename_i nonnegative
    exact (max_eq_right (not_lt.mp nonnegative)).symm

theorem Series.rate_value {recordings : String → Option (Except String (List (LabelSample ℚ)))}
    (window : Window selector) (series : Series run) (selects : selector.name = series.metric)
    {sample : Int × Metrics.Store} (member : sample ∈ run.samples)
    (inWindow : run.InWindow window.duration.nanoseconds sample) {earlier : Metrics.Entry}
    (registered : sample.2.pipelines[series.pipelineID]? = some earlier) :
    ((run.Holds window.duration.nanoseconds ∧ series.pipelineID ≠ "") →
        (series.rate window recordings).value =
          max 0 (series.current - Metrics.pipelineMetricValue earlier.snapshot series.metric) /
            ((window.duration.nanoseconds : ℚ) / 1000000000)) ∧
      (¬ (run.Holds window.duration.nanoseconds ∧ series.pipelineID ≠ "") →
        (series.rate window recordings).value = 0) := by
  obtain ⟨front, back, split, young, holds⟩ := run.split_of_inWindow member inWindow
  have label : (copyLabelsWithout series.labels "__name__").getD "pipeline_id" "" = series.pipelineID := by
    rw [Std.ExtTreeMap.getD_eq_getD_getElem?, copyLabelsWithout, Std.ExtTreeMap.getElem?_erase,
      if_neg (by rw [Std.compare_eq_iff_eq]; decide), series.labels_pipelineID]
    rfl
  have answer : (run.context recordings).historyAt.bind (fun historyAt =>
      historyAt selector.name (copyLabelsWithout series.labels "__name__")
        (toInt64 ((window.duration.nanoseconds : ℚ) / 1000000000 * 1000000000))) =
      if series.pipelineID = "" then none
      else if back.length < run.keep then
        some (Metrics.pipelineMetricValue earlier.snapshot series.metric)
      else none := by
    rw [toInt64_window]
    dsimp only [SampledRun.context, storeValueAt, Option.bind_some]
    rw [label, selects, run.valueAt_history window.positive window.duration.high split inWindow.2 young,
      registered]
    rfl
  unfold Series.rate rateSample
  dsimp only
  rw [Rat.cast_id, answer]
  constructor
  · rintro ⟨held, identified⟩
    rw [if_neg identified, if_pos (holds.mp held)]
    dsimp only
    rw [cutOff_eq_max]
  · intro missing
    by_cases unnamed : series.pipelineID = ""
    · rw [if_pos unnamed]
    · rw [if_neg unnamed, if_neg fun spare => missing ⟨holds.mpr spare, unnamed⟩]

theorem div_window_inj (window : Window selector) (first second : ℚ) :
    first / ((window.duration.nanoseconds : ℚ) / 1000000000) =
        second / ((window.duration.nanoseconds : ℚ) / 1000000000) ↔ first = second := by
  refine div_left_inj' (div_ne_zero ?_ (by norm_num))
  exact Int.cast_ne_zero.mpr window.positive.ne'

theorem max_count_iff (current previous : Nat) :
    max 0 ((current : ℚ) - 0) = max 0 ((current : ℚ) - previous) ↔
      (previous : ℚ) = 0 ∨ (current : ℚ) = 0 := by
  have currentNonneg : (0 : ℚ) ≤ current := Nat.cast_nonneg current
  have previousNonneg : (0 : ℚ) ≤ previous := Nat.cast_nonneg previous
  rw [sub_zero, max_eq_right currentNonneg]
  constructor
  · intro same
    rcases le_total ((current : ℚ) - previous) 0 with shrunk | grown
    · rw [max_eq_left shrunk] at same
      exact Or.inr same
    · rw [max_eq_right grown] at same
      left
      linarith
  · rintro (zero | zero)
    · rw [zero, sub_zero, max_eq_right currentNonneg]
    · rw [zero, zero_sub, max_eq_left (neg_nonpos.mpr previousNonneg)]

/-- When the value of a rate is the increase per second. -/
theorem Series.rate_iff {recordings : String → Option (Except String (List (LabelSample ℚ)))}
    (window : Window selector) (series : Series run) (selects : selector.name = series.metric)
    {sample : Int × Metrics.Store} (member : sample ∈ run.samples)
    (inWindow : run.InWindow window.duration.nanoseconds sample) {previous : ℚ}
    (has : HasValue sample.2 series.pipelineID series.labels previous) :
    (series.rate window recordings).value =
        max 0 (series.current - previous) / ((window.duration.nanoseconds : ℚ) / 1000000000) ↔
      (run.Holds window.duration.nanoseconds ∧ series.pipelineID ≠ "" ∧
          ∃ counter : Counter, series.metric = counter.name) ∨
        run.Holds window.duration.nanoseconds ∧ series.pipelineID ≠ "" ∧
            (previous = 0 ∨ series.current = 0) ∨
          ¬ (run.Holds window.duration.nanoseconds ∧ series.pipelineID ≠ "") ∧
            series.current ≤ previous := by
  obtain ⟨earlier, registered, emits⟩ := HasValue.emits has
  obtain ⟨held, missed⟩ :=
    @Series.rate_value run selector recordings window series selects sample member inWindow earlier registered
  by_cases reads : run.Holds window.duration.nanoseconds ∧ series.pipelineID ≠ ""
  · rw [held reads, div_window_inj]
    rcases emits.counter_or_bucket with ⟨counter, isCounter, -⟩ | ⟨isBucket, former, -, -, count⟩
    · rw [← emits.eq_metricValue ⟨counter, isCounter⟩]
      exact ⟨fun _ => Or.inl ⟨reads.1, reads.2, counter, isCounter⟩, fun _ => rfl⟩
    · rcases series.emits.counter_or_bucket with ⟨counter, isCounter, -⟩ | ⟨-, bucket, -, -, current⟩
      · exact absurd (isCounter.symm.trans isBucket) (counter_ne_bucket counter)
      · rw [isBucket, pipelineMetricValue_bucket, current, count, max_count_iff]
        constructor
        · exact fun zero => Or.inr (Or.inl ⟨reads.1, reads.2, zero⟩)
        · rintro (⟨-, -, counter, isCounter⟩ | ⟨-, -, zero⟩ | ⟨lost, -⟩)
          · exact absurd isCounter.symm (counter_ne_bucket counter)
          · exact zero
          · exact absurd reads lost
  · have none : 0 = max 0 (series.current - previous) / ((window.duration.nanoseconds : ℚ) / 1000000000) ↔
        series.current ≤ previous := by
      rw [← sub_nonpos, ← max_eq_left_iff, ← div_window_inj window (max _ _), zero_div]
      exact eq_comm
    rw [missed reads, none]
    constructor
    · exact fun shrunk => Or.inr (Or.inr ⟨reads, shrunk⟩)
    · rintro (⟨holds, identified, -⟩ | ⟨holds, identified, -⟩ | ⟨-, shrunk⟩)
      · exact absurd ⟨holds, identified⟩ reads
      · exact absurd ⟨holds, identified⟩ reads
      · exact shrunk

theorem Series.hasValue (series : Series run) {sample : Int × Metrics.Store} (member : sample ∈ run.samples) :
    ∃ previous, HasValue sample.2 series.pipelineID series.labels previous := by
  obtain ⟨earlier, registered, source, dest⟩ := series.stays sample member
  have former := sample.2.named _ _ registered
  have latter := run.store.named _ _ series.registered
  have base : baseLabels earlier.snapshot = baseLabels series.entry.snapshot := by
    show (((∅ : Labels).insert _ earlier.data.pipelineID).insert _ earlier.data.sourceQueue).insert _
      earlier.data.destQueue = _
    rw [former, source, dest, ← latter]
    rfl
  obtain ⟨previous, emits⟩ := series.emits.stays base
  exact ⟨previous, earlier, registered, mem_pipelineSamples emits⟩

theorem measured_of_rateMeans {recordings : String → Option (Except String (List (LabelSample ℚ)))}
    {window : Window selector} {series : Series run} (plain : recordings selector.name = none)
    (selects : selector.name = series.metric)
    (matched : matchesMatchers series.labels selector.matchers = true)
    (means : RateMeans run recordings selector window series) :
    Measured run window.duration.nanoseconds series := by
  obtain ⟨vector, evaluated, rated, -⟩ := evalRate_series window series plain selects matched
  obtain ⟨other, same, -, growth⟩ := means
  obtain rfl := Except.ok.inj (evaluated.symm.trans same)
  obtain ⟨sample, member, inWindow, previous, has, value⟩ := growth _ rated (rateSample_labels ..)
  rcases (series.rate_iff window selects member inWindow has).mp value with counts | others
  · exact Or.inl counts
  · exact Or.inr ⟨sample, member, inWindow, previous, has, others⟩

/-- The rate of a cumulative series means its growth if and only if the ring is long enough for the
window and the series is a counter, or a bucket that was or is zero, or if the ring is too short and
the series has not grown. -/
theorem rateMeans_iff (run : SampledRun)
    (recordings : String → Option (Except String (List (LabelSample ℚ)))) (selector : VectorSelector)
    (window : Window selector) (series : Series run) (plain : recordings selector.name = none)
    (selects : selector.name = series.metric)
    (matched : matchesMatchers series.labels selector.matchers = true)
    (long : window.duration.nanoseconds + run.interval < run.now - run.start) :
    RateMeans run recordings selector window series ↔
      Measured run window.duration.nanoseconds series := by
  refine ⟨measured_of_rateMeans plain selects matched, fun measured => ?_⟩
  obtain ⟨vector, evaluated, rated, only⟩ := evalRate_series window series plain selects matched
  refine ⟨vector, evaluated, ⟨_, rated, rateSample_labels ..⟩, fun rate listed labels => ?_⟩
  rw [only rate listed labels]
  rcases measured with counts | ⟨sample, member, inWindow, previous, has, others⟩
  · obtain ⟨sample, member, inWindow⟩ := run.exists_inWindow window.positive long
    obtain ⟨previous, has⟩ := series.hasValue member
    exact ⟨sample, member, inWindow, previous, has,
      (series.rate_iff window selects member inWindow has).mpr (Or.inl counts)⟩
  · exact ⟨sample, member, inWindow, previous, has,
      (series.rate_iff window selects member inWindow has).mpr (Or.inr others)⟩

end Rate

/-! ### The default ring -/

theorem not_holds_default {run : SampledRun} {window : Int} (interval : run.interval = 30000000000)
    (keep : run.keep = 10) (minutes : 300000000000 ≤ window) : ¬ run.Holds window := by
  intro holds
  have recent := run.recent
  unfold SampledRun.Holds SampledRun.latest at holds
  rw [interval, keep] at holds
  rw [interval] at recent
  push_cast at holds
  omega

/-- A pipeline that has processed some messages, all of them within half a millisecond. -/
def processedEntry (messages : Nat) : Metrics.Entry where
  data := {
    pipelineID := "p1"
    sourceQueue := "orders"
    destQueue := "invoices"
    messagesProcessed := messages }
  latencyBucketCounts := List.replicate 14 messages
  sized := rfl

def processedStore (messages : Nat) : Metrics.Store where
  pipelines := (∅ : Std.ExtTreeMap String Metrics.Entry).insert "p1" (processedEntry messages)
  named id entry found := by
    rw [Std.ExtTreeMap.getElem?_insert] at found
    split at found
    · rename_i same
      rw [← Option.some.inj found, ← Std.compare_eq_iff_eq.mp same]
      rfl
    · exact absurd found.symm (by simp)

theorem processedStore_registered (messages : Nat) :
    (processedStore messages).pipelines["p1"]? = some (processedEntry messages) :=
  Std.ExtTreeMap.getElem?_insert_self

theorem processedEntry_count {messages : Nat} (fits : messages < 2 ^ 64) {bucket : Metrics.HistogramBucket}
    (member : bucket ∈ (processedEntry messages).histogram) : bucket.count = messages := by
  rcases List.mem_append.mp member with bounded | last
  · obtain ⟨⟨bound, count⟩, zipped, rfl⟩ := List.mem_map.mp bounded
    exact List.eq_of_mem_replicate (List.of_mem_zip zipped).2
  · rw [List.mem_singleton.mp last]
    show ((messages : Int) % 2 ^ 64).toNat = messages
    omega

/-- Six minutes with the default ring, ten messages an interval. -/
def sixMinutes : SampledRun where
  interval := 30000000000
  keep := 10
  start := 0
  samples := (List.range 13).map fun count : Nat => (count * 30000000000, processedStore (10 * count))
  now := 365000000000
  store := processedStore 125
  uptime := 365
  ticking := by decide
  kept := by decide
  regular index sample found := by
    rw [List.getElem?_map] at found
    obtain ⟨count, listed, rfl⟩ := Option.map_eq_some_iff.mp found
    obtain ⟨inside, rfl⟩ := List.getElem?_eq_some_iff.mp listed
    rw [List.getElem_range, Int.zero_add]
  sampled := by decide
  recent := by decide

theorem sixMinutes_samples {sample : Int × Metrics.Store} (member : sample ∈ sixMinutes.samples) :
    ∃ count : Nat, count < 13 ∧ sample = ((count : Int) * 30000000000, processedStore (10 * count)) := by
  obtain ⟨count, inside, rfl⟩ := List.mem_map.mp member
  exact ⟨count, List.mem_range.mp inside, rfl⟩

def sixMinutesSeries (metric : String) (labels : Labels) (current : ℚ)
    (emits : Emits (processedEntry 125).snapshot metric ⟨labels, current⟩) (cumulative : Cumulative metric) :
    Series sixMinutes where
  pipelineID := "p1"
  entry := processedEntry 125
  metric := metric
  labels := labels
  current := current
  registered := processedStore_registered 125
  emitted := mem_pipelineSamples emits
  named := emits.name
  cumulative := cumulative
  stays sample member := by
    obtain ⟨count, -, rfl⟩ := sixMinutes_samples member
    exact ⟨processedEntry (10 * count), processedStore_registered _, rfl, rfl⟩

def processedSeries : Series sixMinutes :=
  sixMinutesSeries Counter.messagesProcessed.name _ _ (.counter .messagesProcessed) (Or.inl ⟨_, rfl⟩)

/-- The bucket of the messages within half a millisecond. -/
def bucketSeries : Series sixMinutes :=
  sixMinutesSeries bucketMetric _ _
    (@Emits.bucket (processedEntry 125).snapshot ⟨1 / 2, 125⟩ List.mem_cons_self) (Or.inr rfl)

/-- A selector with a window of some minutes. -/
def minutesSelector (metric text : String) : VectorSelector where
  name := metric
  duration := text

def oneMinute (metric : String) : Window (minutesSelector metric "1m") where
  duration := ⟨60000000000, by decide, by decide⟩
  positive := by decide
  parsed := by
    show (parseDurationSeconds "1m" : Except String ℚ) = _
    decide +kernel

def fiveMinutes (metric : String) : Window (minutesSelector metric "5m") where
  duration := ⟨300000000000, by decide, by decide⟩
  positive := by decide
  parsed := by
    show (parseDurationSeconds "5m" : Except String ℚ) = _
    decide +kernel

/-- A window of one minute fits into the default ring. -/
theorem processed_oneMinute :
    RateMeans sixMinutes (fun _ => none) (minutesSelector Counter.messagesProcessed.name "1m")
      (oneMinute _) processedSeries := by
  refine (rateMeans_iff sixMinutes (fun _ => none) (minutesSelector Counter.messagesProcessed.name "1m")
    (oneMinute _) processedSeries rfl rfl (by decide) (by decide)).mpr ?_
  exact Or.inl ⟨by decide, by decide, .messagesProcessed, rfl⟩

theorem sixMinutes_value {series : Series sixMinutes} (own : series.pipelineID = "p1")
    {sample : Int × Metrics.Store} (member : sample ∈ sixMinutes.samples) {previous : ℚ}
    (has : HasValue sample.2 series.pipelineID series.labels previous) :
    ∃ count : Nat, count < 13 ∧ sample.1 = (count : Int) * 30000000000 ∧
      Emits (processedEntry (10 * count)).snapshot series.metric ⟨series.labels, previous⟩ := by
  obtain ⟨count, inside, rfl⟩ := sixMinutes_samples member
  obtain ⟨entry, registered, emits⟩ := HasValue.emits has
  rw [own, processedStore_registered] at registered
  exact ⟨count, inside, rfl, Option.some.inj registered ▸ emits⟩

/-- In the default ring the rate in five minutes is `0` while messages are processed, and the rate of a
bucket is its whole count over the window. -/
theorem sixMinutes_misread :
    ¬ RateMeans sixMinutes (fun _ => none) (minutesSelector Counter.messagesProcessed.name "5m")
        (fiveMinutes _) processedSeries ∧
      ¬ RateMeans sixMinutes (fun _ => none) (minutesSelector bucketMetric "1m") (oneMinute _)
        bucketSeries := by
  constructor
  · intro means
    have lost : ¬ sixMinutes.Holds (fiveMinutes Counter.messagesProcessed.name).duration.nanoseconds :=
      not_holds_default rfl rfl (le_refl _)
    rcases measured_of_rateMeans rfl rfl (by decide) means with
      ⟨holds, -⟩ | ⟨sample, member, -, previous, has, ⟨holds, -⟩ | ⟨-, shrunk⟩⟩
    · exact absurd holds lost
    · exact absurd holds lost
    · obtain ⟨count, inside, -, emits⟩ := sixMinutes_value rfl member has
      have value := emits.eq_metricValue ⟨.messagesProcessed, rfl⟩
      have grown : (125 : ℚ) ≤ ((10 * count : Nat) : Int) := by
        rw [value] at shrunk
        exact shrunk
      have bound : (125 : Int) ≤ ((10 * count : Nat) : Int) := by exact_mod_cast grown
      omega
  · intro means
    rcases measured_of_rateMeans rfl rfl (by decide) means with
      ⟨-, -, counter, isCounter⟩ | ⟨sample, member, inWindow, previous, has, ⟨-, -, zero⟩ | ⟨missed, -⟩⟩
    · exact absurd isCounter.symm (counter_ne_bucket counter)
    · obtain ⟨count, inside, time, emits⟩ := sixMinutes_value rfl member has
      have taken : (365000000000 : Int) - 60000000000 - 30000000000 < count * 30000000000 := time ▸ inWindow.1
      rcases emits.counter_or_bucket with ⟨counter, isCounter, -⟩ | ⟨-, bucket, among, -, counted⟩
      · exact absurd isCounter.symm (counter_ne_bucket counter)
      · have positive : bucket.count ≠ 0 := by
          rw [processedEntry_count (by omega) among]
          omega
        rcases zero with before | now
        · rw [counted] at before
          exact positive (Nat.cast_eq_zero.mp before)
        · exact absurd now (by decide)
    · exact absurd ⟨by decide, by decide⟩ missed

end Slo

end MqConnector
