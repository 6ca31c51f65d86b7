/-
This file asks whether `histogram_quantile` gives quantiles, whether `percentile` of
`internal/explain` gives the same ones, and whether the histograms that `RecordSuccess`
makes are such that both are defined.

Numbers are exact. The list of the buckets is taken to be in order, as `sort.Slice`
leaves it.
-/

import MqConnector.Grouping
import MqConnector.Interpolation
import MqConnector.Metrics

namespace MqConnector

namespace Slo

namespace Eval

open Interpolation

/-! ### Histograms -/

/-- Buckets with distinct bounds that are not negative and may end with an infinite one, whose counts
do not fall from one bound to a greater one and are positive at last. -/
structure Cumulative (points : List (HistPoint Extended)) : Prop where
  distinct : (points.map (·.le)).Nodup
  bounds : ∀ point ∈ points, point.le = .posInf ∨ ∃ bound : ℚ, 0 ≤ bound ∧ point.le = .finite bound
  counts : ∀ point ∈ points, ∃ count : ℚ, 0 ≤ count ∧ point.count = .finite count
  rising : ∀ point ∈ points, ∀ other ∈ points, point.le < other.le → point.count ≤ other.count
  positive : ∃ point ∈ points, 0 < point.count

/-- The buckets are in order, as `sort.Slice` leaves them. -/
def InOrder (points : List (HistPoint Extended)) : Prop :=
  points.Pairwise fun point other => ¬ other.le < point.le

/-- The greatest finite bound, and zero when there is none. -/
def greatestBound (points : List (HistPoint Extended)) : ℚ :=
  points.foldl (fun greatest point =>
    match point.le with
    | .finite bound => max greatest bound
    | _ => greatest) 0

/-- The finite buckets, as knots. -/
def knots (points : List (HistPoint Extended)) : List (Knot ℚ) :=
  points.filterMap fun point =>
    match point.le, point.count with
    | .finite bound, .finite count => some ⟨bound, count⟩
    | _, _ => none

/-- Buckets in order, from a bound and a count on: an infinite one is the last. -/
inductive Ordered : ℚ → ℚ → List (HistPoint Extended) → Prop
  | nil {low before : ℚ} : Ordered low before []
  | finite {low before bound count : ℚ} {rest : List (HistPoint Extended)} (above : low ≤ bound)
      (more : before ≤ count) (further : Ordered bound count rest) :
      Ordered low before (⟨.finite bound, .finite count⟩ :: rest)
  | infinite {low before count : ℚ} (more : before ≤ count) :
      Ordered low before [⟨.posInf, .finite count⟩]

theorem Ordered.rising {low before : ℚ} {points : List (HistPoint Extended)}
    (ordered : Ordered low before points) : Rising low before (knots points) := by
  induction ordered with
  | nil => exact .nil
  | finite above more _ hypothesis => exact .cons above more hypothesis
  | infinite => exact .nil

theorem Ordered.greatestBound_eq {low before : ℚ} {points : List (HistPoint Extended)}
    (ordered : Ordered low before points) :
    points.foldl (fun greatest point =>
        match point.le with
        | .finite bound => max greatest bound
        | _ => greatest) low = lastBound low (knots points) := by
  induction ordered with
  | nil => rfl
  | finite above _ _ hypothesis =>
    rw [List.foldl_cons]
    show List.foldl _ (max _ _) _ = _
    rw [max_eq_right above, hypothesis]
    rfl
  | infinite => rfl

theorem Ordered.resolve_eq {low before target : ℚ} {points : List (HistPoint Extended)}
    (ordered : Ordered low before points) (reached : ∀ point ∈ points.getLast?, .finite target ≤ point.count) :
    resolve (Extended.finite target) (.finite low) (.finite before) points =
      .finite (value target low before (knots points)) := by
  induction ordered with
  | nil => rfl
  | @finite low before bound count rest above more further hypothesis =>
    have last : rest ≠ [] → (⟨.finite bound, .finite count⟩ :: rest : List (HistPoint Extended)).getLast? =
        rest.getLast? := fun nonempty => by
      rw [List.getLast?_cons, List.getLast?_eq_some_getLast nonempty]
      rfl
    show _ = Extended.finite (value target low before (⟨bound, count⟩ :: knots rest))
    rw [resolve, value]
    simp only [Extended.finite_le_finite]
    split
    case isTrue here =>
      have narrow : (Extended.finite count - .finite before ≤ 0 ∨
          Float64.equal (Extended.finite bound) Float64.posInf = true) ↔ count - before ≤ 0 := by
        have finite : ¬ Float64.equal (Extended.finite bound) Float64.posInf = true := by
          show ¬ Extended.isEqual (.finite bound) .posInf = true
          simp [Extended.isEqual]
        rw [or_iff_left finite, Extended.finite_sub_finite]
        exact Extended.finite_le_finite _ _
      by_cases empty : count - before ≤ 0
      · rw [if_pos (narrow.mpr empty), if_pos empty]
      · rw [if_neg (mt narrow.mp empty), if_neg empty, Extended.finite_sub_finite,
          Extended.finite_sub_finite, Extended.finite_sub_finite,
          Extended.finite_div_finite _ (ne_of_gt (not_le.mp empty)), Extended.finite_mul_finite,
          Extended.finite_add_finite]
    case isFalse beyond =>
      refine hypothesis fun point member => ?_
      rcases eq_or_ne rest [] with rfl | nonempty
      · cases member
      · exact reached point (by rw [last nonempty]; exact member)
  | @infinite low before count more =>
    have here : Extended.finite target ≤ .finite count := reached _ rfl
    have last : Float64.equal Extended.posInf Float64.posInf = true := by
      show Extended.isEqual .posInf .posInf = true
      decide
    rw [resolve, if_pos here]
    exact if_pos (Or.inr last)

theorem ordered_of_pairwise {low before : ℚ} {points : List (HistPoint Extended)}
    (bounds : ∀ point ∈ points, point.le = .posInf ∨ ∃ bound : ℚ, low ≤ bound ∧ point.le = .finite bound)
    (counts : ∀ point ∈ points, ∃ count : ℚ, before ≤ count ∧ point.count = .finite count)
    (rising : points.Pairwise fun point other => point.le < other.le ∧ point.count ≤ other.count) :
    Ordered low before points := by
  induction points generalizing low before with
  | nil => exact .nil
  | cons point rest hypothesis =>
    rw [List.forall_mem_cons] at bounds counts
    rw [List.pairwise_cons] at rising
    obtain ⟨bound, count⟩ := point
    obtain ⟨exact, more, rfl : count = _⟩ := counts.1
    rcases bounds.1 with last | ⟨finite, above, here⟩
    · obtain rfl : bound = .posInf := last
      have nothing : rest = [] := List.eq_nil_iff_forall_not_mem.mpr fun other member => by
        have beyond := (rising.1 other member).1
        rcases bounds.2 other member with same | ⟨finite, -, same⟩
        · rw [same] at beyond
          cases beyond
        · rw [same] at beyond
          cases beyond
      rw [nothing]
      exact .infinite more
    · obtain rfl : bound = .finite finite := here
      refine .finite above more (hypothesis (fun other member => ?_) (fun other member => ?_)
        rising.2)
      · refine (bounds.2 other member).imp_right ?_
        rintro ⟨further, -, same⟩
        have beyond := (rising.1 other member).1
        rw [same, Extended.finite_lt_finite] at beyond
        exact ⟨further, beyond.le, same⟩
      · obtain ⟨further, -, same⟩ := counts.2 other member
        have grown := (rising.1 other member).2
        rw [same, Extended.finite_le_finite] at grown
        exact ⟨further, grown, same⟩

theorem lt_of_not_lt {value other : Extended} (bound : value = .posInf ∨ ∃ exact : ℚ, value = .finite exact)
    (otherBound : other = .posInf ∨ ∃ exact : ℚ, other = .finite exact) (differ : value ≠ other)
    (notBeyond : ¬ other < value) : value < other := by
  rcases bound with rfl | ⟨exact, rfl⟩ <;> rcases otherBound with rfl | ⟨further, rfl⟩
  · exact absurd rfl differ
  · exact absurd rfl notBeyond
  · rfl
  · rw [Extended.finite_lt_finite] at notBeyond ⊢
    exact lt_of_le_of_ne (not_lt.mp notBeyond) fun same => differ (congrArg _ same)

theorem Cumulative.ordered {points ordered : List (HistPoint Extended)} (cumulative : Cumulative points)
    (permuted : ordered.Perm points) (inOrder : InOrder ordered) : Ordered 0 0 ordered := by
  have bounded (point : HistPoint Extended) (member : point ∈ ordered) :=
    cumulative.bounds point (permuted.mem_iff.mp member)
  refine ordered_of_pairwise bounded
    (fun point member => cumulative.counts point (permuted.mem_iff.mp member)) ?_
  have distinct : ordered.Pairwise fun point other => point.le ≠ other.le := by
    have nodup := (permuted.map (·.le)).nodup_iff.mpr cumulative.distinct
    exact List.pairwise_map.mp nodup
  refine List.Pairwise.imp_of_mem ?_ (inOrder.and distinct)
  rintro point other member otherMember ⟨notBeyond, differ⟩
  have less := lt_of_not_lt ((bounded point member).imp_right fun ⟨exact, _, same⟩ => ⟨exact, same⟩)
    ((bounded other otherMember).imp_right fun ⟨exact, _, same⟩ => ⟨exact, same⟩) differ notBeyond
  exact ⟨less, cumulative.rising point (permuted.mem_iff.mp member) other
    (permuted.mem_iff.mp otherMember) less⟩

/-- Buckets have one order only. -/
theorem Cumulative.inOrder_unique {points ordered others : List (HistPoint Extended)}
    (cumulative : Cumulative points) (permuted : ordered.Perm points) (inOrder : InOrder ordered)
    (permutedOthers : others.Perm points) (inOrderOthers : InOrder others) : ordered = others := by
  refine (permuted.trans permutedOthers.symm).eq_of_pairwise (fun point other member otherMember => ?_)
    inOrder inOrderOthers
  have member := permuted.mem_iff.mp member
  have otherMember := permutedOthers.mem_iff.mp otherMember
  intro notBelow notAbove
  by_contra differ
  have bounds : point.le ≠ other.le := fun same =>
    differ (List.inj_on_of_nodup_map cumulative.distinct member otherMember same)
  exact notAbove (lt_of_not_lt
    ((cumulative.bounds point member).imp_right fun ⟨exact, _, same⟩ => ⟨exact, same⟩)
    ((cumulative.bounds other otherMember).imp_right fun ⟨exact, _, same⟩ => ⟨exact, same⟩) bounds notBelow)

/-! ### Quantiles -/

def total (points : List (HistPoint Extended)) : ℚ :=
  match points.getLast? with
  | some ⟨_, .finite count⟩ => count
  | _ => 0

/-- A function from quantiles to values: between zero and the greatest finite bound, in the bucket in
which the counts first reach their part of the total, or at the bound before an infinite bucket, and
growing with the quantile. -/
structure IsQuantile (points : List (HistPoint Extended)) (value : ℚ → ℚ) : Prop where
  nonneg : ∀ quantile, 0 ≤ quantile → quantile ≤ 1 → 0 ≤ value quantile
  atMost : ∀ quantile, 0 ≤ quantile → quantile ≤ 1 → value quantile ≤ greatestBound points
  within : ∀ quantile, 0 ≤ quantile → quantile ≤ 1 → ∀ before point after,
    points = before ++ point :: after →
    (∀ earlier ∈ before, earlier.count < .finite (quantile * total points)) →
    .finite (quantile * total points) ≤ point.count →
    greatestBound before ≤ value quantile ∧
      (∀ bound, point.le = .finite bound → value quantile ≤ bound) ∧
      (point.le = .posInf → value quantile = greatestBound before)
  grows : ∀ quantile further, 0 ≤ quantile → quantile ≤ further → further ≤ 1 →
    value quantile ≤ value further

theorem Ordered.front {low before : ℚ} {points rest : List (HistPoint Extended)}
    (ordered : Ordered low before (points ++ rest)) : Ordered low before points := by
  induction points generalizing low before with
  | nil => exact .nil
  | cons point points hypothesis =>
    rw [List.cons_append] at ordered
    generalize whole : points ++ rest = others at ordered
    cases ordered with
    | finite above more further => exact .finite above more (hypothesis (whole ▸ further))
    | infinite more =>
      rw [(List.append_eq_nil_iff.mp whole).1]
      exact .infinite more

theorem Ordered.bucket {low before : ℚ} {points after : List (HistPoint Extended)}
    {point : HistPoint Extended}
    (ordered : Ordered low before (points ++ point :: after)) :
    (∃ bound count : ℚ, point = ⟨.finite bound, .finite count⟩) ∨
      (∃ count : ℚ, point = ⟨.posInf, .finite count⟩) ∧ after = [] := by
  induction points generalizing low before with
  | nil =>
    cases ordered with
    | finite => exact Or.inl ⟨_, _, rfl⟩
    | infinite => exact Or.inr ⟨⟨_, rfl⟩, rfl⟩
  | cons first points hypothesis =>
    rw [List.cons_append] at ordered
    generalize whole : points ++ point :: after = others at ordered
    cases ordered with
    | finite _ _ further => exact hypothesis (whole ▸ further)
    | infinite => cases (List.append_eq_nil_iff.mp whole).2

theorem Ordered.greatestBound_knots {points : List (HistPoint Extended)} (ordered : Ordered 0 0 points) :
    greatestBound points = lastBound 0 (knots points) :=
  ordered.greatestBound_eq

theorem Ordered.count_le {low before : ℚ} {points : List (HistPoint Extended)}
    (ordered : Ordered low before points) (nonempty : points ≠ []) :
    ∃ last, points.getLast? = some last ∧ last.count = .finite (total points) ∧ before ≤ total points := by
  induction ordered with
  | nil => exact absurd rfl nonempty
  | @finite low before bound count rest above more further hypothesis =>
    rcases eq_or_ne rest [] with rfl | others
    · exact ⟨_, rfl, rfl, more⟩
    · obtain ⟨last, found, lastCount, atMost⟩ := hypothesis others
      have same : (⟨.finite bound, .finite count⟩ :: rest : List (HistPoint Extended)).getLast? =
          rest.getLast? := by
        rw [List.getLast?_cons, found]
        rfl
      have totals : total (⟨.finite bound, .finite count⟩ :: rest) = total rest := by
        rw [total, total, same]
      rw [totals]
      exact ⟨last, same.trans found, lastCount, more.trans atMost⟩
  | infinite more => exact ⟨_, rfl, rfl, more⟩

theorem Ordered.count_le_total {low before : ℚ} {points : List (HistPoint Extended)}
    (ordered : Ordered low before points) : ∀ point ∈ points, point.count ≤ .finite (total points) := by
  induction ordered with
  | nil => exact fun _ member => nomatch member
  | @finite low before bound count rest above more further hypothesis =>
    rcases eq_or_ne rest [] with rfl | others
    · intro point member
      rw [List.mem_singleton.mp member]
      exact (Extended.finite_le_finite _ _).mpr le_rfl
    · obtain ⟨last, found, -, atMost⟩ := further.count_le others
      have totals : total (⟨.finite bound, .finite count⟩ :: rest) = total rest := by
        rw [total, total, List.getLast?_cons, found]
        rfl
      rw [totals, List.forall_mem_cons]
      exact ⟨(Extended.finite_le_finite _ _).mpr atMost, hypothesis⟩
  | infinite =>
    intro point member
    rw [List.mem_singleton.mp member]
    exact (Extended.finite_le_finite _ _).mpr le_rfl

theorem Cumulative.total_pos {points ordered : List (HistPoint Extended)} (cumulative : Cumulative points)
    (permuted : ordered.Perm points) (inOrder : InOrder ordered) : 0 < total ordered := by
  obtain ⟨point, member, positive⟩ := cumulative.positive
  obtain ⟨count, -, same⟩ := cumulative.counts point member
  have below := (cumulative.ordered permuted inOrder).count_le_total point (permuted.mem_iff.mpr member)
  rw [same] at positive below
  have positive : Extended.finite 0 < .finite count := positive
  rw [Extended.finite_lt_finite] at positive
  rw [Extended.finite_le_finite] at below
  exact positive.trans_le below

section Values

variable {points : List (HistPoint Extended)} (ordered : Ordered 0 0 points) (positive : 0 < total points)

include ordered positive

/-- The code interpolates between the knots. -/
theorem Ordered.quantileOf_eq {quantile : ℚ} (atMost : quantile ≤ 1) :
    quantileOf (.finite quantile) points =
      some (Extended.finite (value (quantile * total points) 0 0 (knots points))) := by
  have nonempty : points ≠ [] := by
    rintro rfl
    exact absurd positive (lt_irrefl 0)
  obtain ⟨last, found, lastCount, -⟩ := ordered.count_le nonempty
  have counted : ¬ Extended.finite (total points) ≤ 0 := by
    show ¬ Extended.finite _ ≤ Extended.finite 0
    rw [Extended.finite_le_finite]
    exact not_le.mpr positive
  rw [quantileOf, found, Option.map_some, lastCount, if_neg counted, Extended.finite_mul_finite]
  refine congrArg some (ordered.resolve_eq fun point member => ?_)
  obtain rfl : last = point := Option.some.inj (found.symm.trans member)
  rw [lastCount, Extended.finite_le_finite]
  exact mul_le_of_le_one_left positive.le atMost

/-- The interpolation is a quantile. -/
theorem Ordered.isQuantile :
    IsQuantile points fun quantile => value (quantile * total points) 0 0 (knots points) where
  nonneg quantile least _ := le_value ordered.rising (mul_nonneg least positive.le)
  atMost quantile least _ := by
    rw [ordered.greatestBound_knots]
    exact value_le_lastBound ordered.rising (mul_nonneg least positive.le)
  within quantile least _ before point after whole earlier reached := by
    subst whole
    have target : 0 ≤ quantile * total (before ++ point :: after) := mul_nonneg least positive.le
    generalize quantile * total (before ++ point :: after) = part at target earlier reached
    have below : ∀ knot ∈ knots before, knot.count < part := by
      intro knot member
      obtain ⟨⟨bound, count⟩, present, made⟩ := List.mem_filterMap.mp member
      have less := earlier _ present
      cases bound with
      | finite bound =>
        cases count with
        | finite count =>
          obtain rfl : (⟨bound, count⟩ : Knot ℚ) = knot := Option.some.inj made
          exact (Extended.finite_lt_finite _ _).mp less
        | _ => cases made
      | _ => cases made
    have rising := ordered.rising
    have split : knots (before ++ point :: after) = knots before ++ knots (point :: after) :=
      List.filterMap_append
    rw [ordered.front.greatestBound_knots, split]
    rw [split] at rising
    rcases ordered.bucket with ⟨bound, count, rfl⟩ | ⟨⟨count, rfl⟩, rfl⟩
    · have inside := value_within rising target below ((Extended.finite_le_finite _ _).mp reached)
      refine ⟨inside.1, fun same here => ?_, fun infinite => nomatch infinite⟩
      rw [← Extended.finite.inj here]
      exact inside.2
    · have beyond : value part 0 0 (knots before ++ []) = lastBound 0 (knots before) := by
        rw [List.append_nil]
        exact value_beyond below
      exact ⟨beyond.ge, (fun bound here => nomatch here), fun _ => beyond⟩
  grows quantile further least more _ :=
    value_mono ordered.rising (mul_nonneg least positive.le) (mul_le_mul_of_nonneg_right more positive.le)

end Values

end Eval

end Slo

/-! ### Percentiles -/

namespace Explain

open Metrics Interpolation Slo.Eval

/-- The loop of `percentile`, with the bound and the count of the bucket before. -/
def percentileLoop (target : ℚ) : ℚ → Nat → List HistogramBucket → ℚ
  | prevLE, _, [] => prevLE
  | prevLE, prevCount, bucket :: rest =>
    if target ≤ bucket.count then
      if 10 ^ 15 < bucket.le then if 0 < prevLE then prevLE else 0
      else
        let bw := bucket.le - prevLE
        let bc : Int := ((bucket.count : Int) - prevCount) % 2 ^ 64
        if bc ≤ 0 then prevLE
        else
          let frac := (target - prevCount) / bc
          prevLE + (if frac < 0 then 0 else frac) * bw
    else percentileLoop target bucket.le bucket.count rest

def greatestCount (buckets : List HistogramBucket) : Nat :=
  buckets.foldl (fun total bucket => if total < bucket.count then bucket.count else total) 0

def percentile (buckets : List HistogramBucket) (quantile : ℚ) : ℚ :=
  if buckets = [] ∨ quantile < 0 then 0
  else
    let quantile := if 1 < quantile then 1 else quantile
    let total := greatestCount buckets
    if total = 0 then 0 else percentileLoop (quantile * total) 0 0 buckets

/-- The bucket as `histogram_quantile` reads it: the largest float stands for no bound. -/
def point (bucket : HistogramBucket) : HistPoint Extended where
  le := if bucket.le = maxFloat64 then .posInf else .finite bucket.le
  count := .finite bucket.count

/-- Buckets with rising bounds that are not negative, at most `10 ^ 15` or the largest float, and with
counts that do not fall, fit into a `uint64` and are positive at last. -/
structure Bucketed (buckets : List HistogramBucket) : Prop where
  bounds : buckets.Pairwise fun bucket other => bucket.le < other.le
  nonneg : ∀ bucket ∈ buckets, 0 ≤ bucket.le
  finite : ∀ bucket ∈ buckets, bucket.le ≤ 10 ^ 15 ∨ bucket.le = maxFloat64
  counts : buckets.Pairwise fun bucket other => bucket.count ≤ other.count
  fits : ∀ bucket ∈ buckets, bucket.count < 2 ^ 64
  positive : ∃ bucket ∈ buckets, 0 < bucket.count

theorem lt_maxFloat64 : (10 : ℚ) ^ 15 < maxFloat64 := by
  have split : (2 : ℚ) ^ 1024 = 2 ^ 971 * 2 ^ 53 := by rw [← pow_add]
  have one : (1 : ℚ) ≤ 2 ^ 971 := one_le_pow₀ (by norm_num)
  rw [maxFloat64, split]
  generalize (2 : ℚ) ^ 971 = scale at one ⊢
  linarith

theorem point_le_lt {bucket other : HistogramBucket}
    (less : bucket.le < other.le) (finite : other.le ≤ 10 ^ 15 ∨ other.le = maxFloat64) :
    (point bucket).le < (point other).le := by
  have small : bucket.le ≠ maxFloat64 := by
    rintro same
    rcases finite with bounded | last
    · exact absurd lt_maxFloat64 (not_lt.mpr ((same ▸ less.le).trans bounded))
    · exact absurd less (by rw [same, last]; exact lt_irrefl _)
  rw [point, point]
  show (if _ then _ else _) < (if _ then _ else _)
  rw [if_neg small]
  split
  · rfl
  · exact (Extended.finite_lt_finite _ _).mpr less

section Bucketed

variable {buckets : List HistogramBucket} (bucketed : Bucketed buckets)

include bucketed

theorem Bucketed.pairwise_point : (buckets.map point).Pairwise fun point other =>
    point.le < other.le ∧ point.count ≤ other.count := by
  rw [List.pairwise_map]
  refine List.Pairwise.imp_of_mem ?_ (bucketed.bounds.and bucketed.counts)
  rintro bucket other - member ⟨less, grown⟩
  refine ⟨point_le_lt less (bucketed.finite other member), ?_⟩
  show Extended.finite _ ≤ Extended.finite _
  rw [Extended.finite_le_finite]
  exact_mod_cast grown

theorem Bucketed.ordered : Ordered 0 0 (buckets.map point) := by
  refine ordered_of_pairwise ?_ ?_ bucketed.pairwise_point
  · rw [List.forall_mem_map]
    intro bucket member
    by_cases last : bucket.le = maxFloat64
    · exact Or.inl (if_pos last)
    · exact Or.inr ⟨bucket.le, bucketed.nonneg bucket member, if_neg last⟩
  · rw [List.forall_mem_map]
    exact fun bucket _ => ⟨bucket.count, Nat.cast_nonneg _, rfl⟩

theorem Bucketed.cumulative : Cumulative (buckets.map point) where
  distinct := by
    rw [List.map_map, List.nodup_iff_pairwise_ne, List.pairwise_map]
    refine (List.pairwise_map.mp bucketed.pairwise_point).imp fun less same => ?_
    have less := less.1
    rw [show (point _).le = (point _).le from same] at less
    exact Extended.not_lt_of_lt less less
  bounds := by
    rw [List.forall_mem_map]
    intro bucket member
    by_cases last : bucket.le = maxFloat64
    · exact Or.inl (if_pos last)
    · exact Or.inr ⟨bucket.le, bucketed.nonneg bucket member, if_neg last⟩
  counts := by
    rw [List.forall_mem_map]
    exact fun bucket _ => ⟨bucket.count, Nat.cast_nonneg _, rfl⟩
  rising := by
    have forward : (buckets.map point).Pairwise fun point other =>
        point.le < other.le → point.count ≤ other.count :=
      bucketed.pairwise_point.imp fun less _ => less.2
    have backward : (buckets.map point).Pairwise (flip fun point other =>
        point.le < other.le → point.count ≤ other.count) :=
      bucketed.pairwise_point.imp fun less beyond => absurd less.1 (Extended.not_lt_of_lt beyond)
    intro point member other otherMember
    exact forward.forall_of_forall_of_flip
      (fun point _ less => absurd less (Extended.not_lt_of_lt less)) backward member otherMember
  positive := by
    obtain ⟨bucket, member, positive⟩ := bucketed.positive
    refine ⟨point bucket, List.mem_map_of_mem member, ?_⟩
    show Extended.finite 0 < Extended.finite _
    rw [Extended.finite_lt_finite]
    exact_mod_cast positive

theorem Bucketed.inOrder : InOrder (buckets.map point) :=
  bucketed.pairwise_point.imp fun less => Extended.not_lt_of_lt less.1

end Bucketed

theorem total_point (bucket : HistogramBucket) (buckets : List HistogramBucket) :
    total ((buckets ++ [bucket]).map point) = bucket.count := by
  rw [List.map_append, total, List.getLast?_append]
  rfl

theorem Bucketed.greatestCount_eq {bucket : HistogramBucket} {buckets : List HistogramBucket}
    (bucketed : Bucketed (buckets ++ [bucket])) : greatestCount (buckets ++ [bucket]) = bucket.count := by
  have most (start : Nat) (others : List HistogramBucket)
      (below : start ≤ bucket.count ∧ ∀ other ∈ others, other.count ≤ bucket.count) :
      others.foldl (fun total bucket => if total < bucket.count then bucket.count else total) start ≤
        bucket.count := by
    induction others generalizing start with
    | nil => exact below.1
    | cons other others hypothesis =>
      rw [List.foldl_cons]
      rw [List.forall_mem_cons] at below
      refine hypothesis _ ⟨?_, below.2.2⟩
      split
      · exact below.2.1
      · exact below.1
  have before := most 0 buckets ⟨Nat.zero_le _, fun other member =>
    (List.pairwise_append.mp bucketed.counts).2.2 other member bucket (List.mem_singleton_self _)⟩
  rw [greatestCount, List.foldl_append, List.foldl_cons, List.foldl_nil]
  split
  · rfl
  · omega

theorem percentileLoop_eq {target low : ℚ} {before : Nat} {buckets : List HistogramBucket}
    (ordered : Ordered low before (buckets.map point)) (nonneg : 0 ≤ low) (above : (before : ℚ) ≤ target)
    (finite : ∀ bucket ∈ buckets, bucket.le ≤ 10 ^ 15 ∨ bucket.le = maxFloat64)
    (fits : ∀ bucket ∈ buckets, bucket.count < 2 ^ 64)
    (reached : ∀ bucket ∈ buckets.getLast?, target ≤ bucket.count) :
    percentileLoop target low before buckets = value target low before (knots (buckets.map point)) := by
  induction buckets generalizing low before with
  | nil => rfl
  | cons bucket rest hypothesis =>
    rw [List.forall_mem_cons] at finite fits
    rw [percentileLoop]
    by_cases last : bucket.le = maxFloat64
    · -- The infinite bucket is the last one, and its count reaches the target.
      have shape : point bucket = ⟨.posInf, .finite (bucket.count : ℚ)⟩ := by
        rw [point, if_pos last]
      rw [List.map_cons, shape] at ordered
      generalize others : rest.map point = points at ordered
      cases ordered
      obtain rfl := List.map_eq_nil_iff.mp others
      have here : target ≤ bucket.count := reached bucket rfl
      rw [if_pos here, if_pos (last ▸ lt_maxFloat64), List.map_cons, shape]
      show (if 0 < low then low else 0) = low
      split
      case isTrue => rfl
      case isFalse zero => exact le_antisymm nonneg (not_lt.mp zero)
    · have bounded := finite.1.resolve_right last
      have shape : point bucket = ⟨.finite bucket.le, .finite (bucket.count : ℚ)⟩ := by
        rw [point, if_neg last]
      rw [List.map_cons, shape] at ordered ⊢
      show _ = value target low before (⟨bucket.le, bucket.count⟩ :: knots (rest.map point))
      rw [value]
      generalize others : rest.map point = points at ordered
      cases ordered with
      | finite aboveLow more further =>
        have more : before ≤ bucket.count := by exact_mod_cast more
        split
        case isTrue here =>
          -- The subtraction of the counts does not wrap.
          have exact : ((bucket.count : Int) - before) % 2 ^ 64 = (bucket.count : Int) - before :=
            Int.emod_eq_of_lt (by omega) (by have := fits.1; omega)
          have cast : (((bucket.count : Int) - before : Int) : ℚ) = (bucket.count : ℚ) - before := by
            push_cast
            rfl
          have narrow : (bucket.count : Int) - before ≤ 0 ↔ (bucket.count : ℚ) - before ≤ 0 := by
            rw [← cast]
            exact (Int.cast_nonpos).symm
          rw [if_neg (not_lt.mpr bounded), exact]
          simp only [narrow]
          split
          case isTrue => rfl
          case isFalse wide =>
            have fraction : 0 ≤ (target - before) / ((bucket.count : ℚ) - before) :=
              div_nonneg (sub_nonneg.mpr above) (not_le.mp wide).le
            rw [cast, if_neg (not_lt.mpr fraction), mul_comm]
        case isFalse beyond =>
          refine (hypothesis (others ▸ further) (nonneg.trans aboveLow) (not_le.mp beyond).le
            finite.2 fits.2 fun other member => ?_).trans (by rw [others])
          refine reached other ?_
          rw [List.getLast?_cons, show rest.getLast? = some other from member]
          rfl

/-- Both surfaces interpolate alike. -/
theorem Bucketed.percentile_eq {buckets : List HistogramBucket} (bucketed : Bucketed buckets)
    {quantile : ℚ} (least : 0 ≤ quantile) (most : quantile ≤ 1) :
    percentile buckets quantile =
      value (quantile * total (buckets.map point)) 0 0 (knots (buckets.map point)) := by
  obtain ⟨positiveBucket, member, positive⟩ := bucketed.positive
  rcases List.eq_nil_or_concat buckets with rfl | ⟨front, last, rfl⟩
  · cases member
  · rw [List.concat_eq_append] at bucketed member ⊢
    have lastMost : positiveBucket.count ≤ last.count := by
      rcases List.mem_append.mp member with earlier | same
      · exact (List.pairwise_append.mp bucketed.counts).2.2 _ earlier _ (List.mem_singleton_self _)
      · rw [List.mem_singleton.mp same]
    have counted : greatestCount (front ++ [last]) ≠ 0 := by
      rw [bucketed.greatestCount_eq]
      omega
    have some : ¬ (front ++ [last] = [] ∨ quantile < 0) :=
      not_or.mpr ⟨List.append_ne_nil_of_right_ne_nil _ (List.cons_ne_nil _ _), not_lt.mpr least⟩
    rw [percentile, if_neg some]
    simp only [if_neg (not_lt.mpr most), if_neg counted]
    rw [bucketed.greatestCount_eq, total_point]
    have atLeast : ((0 : Nat) : ℚ) ≤ quantile * last.count := by
      rw [Nat.cast_zero]
      exact mul_nonneg least (Nat.cast_nonneg _)
    have same := @percentileLoop_eq (quantile * last.count) 0 0 (front ++ [last])
      (by exact_mod_cast bucketed.ordered) le_rfl atLeast bucketed.finite bucketed.fits
      fun bucket found => by
        rw [List.getLast?_append] at found
        obtain rfl : last = bucket := Option.some.inj found
        exact mul_le_of_le_one_left (Nat.cast_nonneg _) most
    rw [same, Nat.cast_zero]

end Explain

/-! ### The histograms of `RecordSuccess` -/

namespace Metrics

/-- How many of the latencies are at most this one. -/
def countUpTo (latencies : List ℚ) (bound : ℚ) : Nat :=
  latencies.countP fun latency => decide (latency ≤ bound)

/-- The entry counts these latencies, as far as its integers hold them. -/
structure Counted (latencies : List ℚ) (entry : LiveEntry) : Prop where
  processed : entry.data.messagesProcessed % 2 ^ 64 = latencies.length % 2 ^ 64
  buckets : entry.latencyBucketCounts = latencyBuckets.map fun bound => countUpTo latencies bound % 2 ^ 64

theorem zip_map_self {Item Other : Type} (items : List Item) (write : Item → Other) :
    items.zip (items.map write) = items.map fun item => (item, write item) := by
  induction items with
  | nil => rfl
  | cons item items hypothesis =>
    rw [List.map_cons, List.zip_cons_cons, hypothesis, List.map_cons]

theorem Counted.recordSuccess {latencies : List ℚ} {entry : LiveEntry} (counted : Counted latencies entry)
    (call : Success) : Counted (latencies ++ [call.latencyMs]) (entry.recordSuccess call) where
  processed := by
    have wrapped : (entry.data.messagesProcessed + 1).bmod (2 ^ 64) % ((2 ^ 64 : Nat) : Int) =
        (entry.data.messagesProcessed + 1) % ((2 ^ 64 : Nat) : Int) := Int.bmod_emod
    have before := counted.processed
    show (entry.data.messagesProcessed + 1).bmod (2 ^ 64) % 2 ^ 64 = _
    rw [List.length_append, List.length_singleton]
    push_cast at wrapped ⊢
    omega
  buckets := by
    show (latencyBuckets.zip entry.latencyBucketCounts).map _ = _
    rw [counted.buckets, zip_map_self, List.map_map]
    refine List.map_congr_left fun bound _ => ?_
    show (if call.latencyMs ≤ bound then (countUpTo latencies bound % 2 ^ 64 + 1) % 2 ^ 64
      else countUpTo latencies bound % 2 ^ 64) = countUpTo (latencies ++ [call.latencyMs]) bound % 2 ^ 64
    rw [countUpTo, countUpTo, List.countP_append, List.countP_singleton]
    split
    case isTrue within => rw [if_pos (decide_eq_true within), Nat.mod_add_mod]
    case isFalse beyond => rw [if_neg (by simpa using beyond), Nat.add_zero]

def latenciesOf (pipelineID : String) (calls : List Success) : List ℚ :=
  (calls.filter fun call => decide (call.pipelineID = pipelineID)).map (·.latencyMs)

/-- After every run the entry has counted each success. -/
theorem counted_run (store : LiveStore) (pipelineID sourceQueue destQueue : String) (calls : List Success) :
    ∃ entry, (calls.foldl LiveStore.recordSuccess
        (store.register pipelineID sourceQueue destQueue))[pipelineID]? = some entry ∧
      Counted (latenciesOf pipelineID calls) entry := by
  induction calls using List.reverseRecOn with
  | nil =>
    refine ⟨_, Std.ExtTreeMap.getElem?_insert_self, rfl, ?_⟩
    rfl
  | append_singleton before call hypothesis =>
    obtain ⟨entry, found, counted⟩ := hypothesis
    rw [List.foldl_append, List.foldl_cons, List.foldl_nil, latenciesOf, List.filter_append, List.map_append]
    generalize before.foldl LiveStore.recordSuccess (store.register pipelineID sourceQueue destQueue) =
      reached at found ⊢
    rw [LiveStore.recordSuccess]
    by_cases own : call.pipelineID = pipelineID
    · rw [own, found, List.filter_singleton, decide_eq_true own]
      exact ⟨_, Std.ExtTreeMap.getElem?_insert_self, counted.recordSuccess call⟩
    · rw [List.filter_singleton, decide_eq_false own]
      refine ⟨entry, ?_, (List.append_nil (latenciesOf pipelineID before)).symm ▸ counted⟩
      split
      · exact found
      · rw [Std.ExtTreeMap.getElem?_insert,
          if_neg fun same => own (Std.LawfulEqCmp.eq_of_compare same)]
        exact found

theorem countUpTo_le_length (latencies : List ℚ) (bound : ℚ) : countUpTo latencies bound ≤ latencies.length :=
  List.countP_le_length

theorem countUpTo_mono (latencies : List ℚ) {bound further : ℚ} (le : bound ≤ further) :
    countUpTo latencies bound ≤ countUpTo latencies further :=
  List.countP_mono_left fun latency _ within => by
    rw [decide_eq_true_eq] at within ⊢
    exact within.trans le

theorem Counted.histogram_eq {latencies : List ℚ} {entry : LiveEntry} (counted : Counted latencies entry)
    (few : latencies.length < 2 ^ 64) :
    entry.histogram = (latencyBuckets.map fun bound => ⟨bound, countUpTo latencies bound⟩) ++
      [⟨maxFloat64, latencies.length⟩] := by
  have small (bound : ℚ) : countUpTo latencies bound % 2 ^ 64 = countUpTo latencies bound :=
    Nat.mod_eq_of_lt ((countUpTo_le_length latencies bound).trans_lt few)
  have processed : (entry.data.messagesProcessed % 2 ^ 64).toNat = latencies.length := by
    rw [counted.processed]
    omega
  rw [Entry.histogram, counted.buckets, zip_map_self, List.map_map, processed]
  simp only [Function.comp_def, small]

theorem Counted.bucketed {latencies : List ℚ} {entry : LiveEntry} (counted : Counted latencies entry)
    (some : latencies ≠ []) (few : latencies.length < 2 ^ 64) : Explain.Bucketed entry.histogram := by
  have small : ∀ bound ∈ latencyBuckets, 0 ≤ bound ∧ bound ≤ 10 ^ 15 := by decide +kernel
  have rising : latencyBuckets.Pairwise fun bound further => bound < further := by decide +kernel
  rw [counted.histogram_eq few]
  refine ⟨?_, ?_, ?_, ?_, ?_, ?_⟩
  · rw [List.pairwise_append, List.pairwise_map]
    refine ⟨rising, List.pairwise_singleton _ _, List.forall_mem_map.mpr fun bound member => ?_⟩
    rw [List.forall_mem_singleton]
    exact (small bound member).2.trans_lt Explain.lt_maxFloat64
  · rw [List.forall_mem_append, List.forall_mem_map, List.forall_mem_singleton]
    refine ⟨fun bound member => (small bound member).1, ?_⟩
    exact le_trans (by norm_num) Explain.lt_maxFloat64.le
  · rw [List.forall_mem_append, List.forall_mem_map, List.forall_mem_singleton]
    exact ⟨fun bound member => Or.inl (small bound member).2, Or.inr rfl⟩
  · rw [List.pairwise_append, List.pairwise_map]
    refine ⟨rising.imp fun less => countUpTo_mono latencies less.le, List.pairwise_singleton _ _,
      List.forall_mem_map.mpr fun bound _ => ?_⟩
    rw [List.forall_mem_singleton]
    exact countUpTo_le_length latencies bound
  · rw [List.forall_mem_append, List.forall_mem_map, List.forall_mem_singleton]
    exact ⟨fun bound _ => (countUpTo_le_length latencies bound).trans_lt few, few⟩
  · exact ⟨_, List.mem_append_right _ (List.mem_singleton_self _), List.length_pos_iff.mpr some⟩

end Metrics

/-! ### The quantiles of a histogram -/

open Slo Slo.Eval Metrics Explain Interpolation

/-- The quantiles of one histogram: there is a function of quantiles, it is a quantile, and the code
computes it. -/
def HasQuantiles (points : List (HistPoint Extended)) : Prop :=
  ∃ value : ℚ → ℚ, IsQuantile points value ∧
    ∀ quantile, 0 ≤ quantile → quantile ≤ 1 → quantileOf (.finite quantile) points = some (Extended.finite (value quantile))

/-- `histogram_quantile` is a quantile, `percentile` is the same one, and both are defined on the
histograms of some calls of `RecordSuccess`, fewer than its integers hold. -/
theorem histogram_quantile_is_quantile :
    (∀ points ordered : List (HistPoint Extended), Cumulative points → ordered.Perm points →
      InOrder ordered → HasQuantiles ordered) ∧
    (∀ (buckets : List HistogramBucket) (ordered : List (HistPoint Extended)), Bucketed buckets →
      ordered.Perm (buckets.map point) → InOrder ordered → ∀ quantile, 0 ≤ quantile → quantile ≤ 1 →
        quantileOf (.finite quantile) ordered = some (Extended.finite (percentile buckets quantile))) ∧
    ∀ (store : LiveStore) (pipelineID sourceQueue destQueue : String) (calls : List Success),
      latenciesOf pipelineID calls ≠ [] → (latenciesOf pipelineID calls).length < 2 ^ 64 →
        ∃ entry, (calls.foldl LiveStore.recordSuccess
            (store.register pipelineID sourceQueue destQueue))[pipelineID]? = some entry ∧
          Bucketed entry.histogram ∧ Cumulative (entry.histogram.map point) := by
  refine ⟨fun points ordered cumulative permuted inOrder => ?_,
    fun buckets ordered bucketed permuted inOrder quantile least most => ?_,
    fun store pipelineID sourceQueue destQueue calls some few => ?_⟩
  · have sorted := cumulative.ordered permuted inOrder
    have positive := cumulative.total_pos permuted inOrder
    exact ⟨_, sorted.isQuantile positive, fun quantile _ most => sorted.quantileOf_eq positive most⟩
  · have same := bucketed.cumulative.inOrder_unique permuted inOrder .rfl bucketed.inOrder
    subst same
    have positive := bucketed.cumulative.total_pos .rfl bucketed.inOrder
    rw [bucketed.ordered.quantileOf_eq positive most, bucketed.percentile_eq least most]
  · obtain ⟨entry, found, counted⟩ := counted_run store pipelineID sourceQueue destQueue calls
    have bucketed := counted.bucketed some few
    exact ⟨entry, found, bucketed, bucketed.cumulative⟩

section Instances

/-- Four messages, one of them beyond all bounds. -/
def fourMessages : List HistogramBucket :=
  [⟨1, 1⟩, ⟨2, 3⟩, ⟨maxFloat64, 4⟩]

theorem bucketed_fourMessages : Bucketed fourMessages := by
  have finite : ∀ bucket ∈ fourMessages, bucket.le ≤ 10 ^ 15 ∨ bucket.le = maxFloat64 := by decide +kernel
  refine ⟨by decide +kernel, by decide +kernel, finite, by decide +kernel, by decide +kernel, ?_⟩
  exact ⟨⟨1, 1⟩, List.mem_cons_self, Nat.one_pos⟩

/-- A call with a latency of one millisecond. -/
def oneMillisecond : Success := { pipelineID := "p", bytes := 10, latencyMs := 1 }

/-- The quantiles of four messages, and the histogram of a live store after one success. -/
theorem fourMessages_has_quantiles :
    HasQuantiles (fourMessages.map point) ∧
      quantileOf (.finite (1 / 2)) (fourMessages.map point) =
        some (Extended.finite (percentile fourMessages (1 / 2))) ∧
      ∃ entry, ([oneMillisecond].foldl LiveStore.recordSuccess
          (LiveStore.register ∅ "p" "in" "out"))["p"]? = some entry ∧
        Bucketed entry.histogram ∧ Cumulative (entry.histogram.map point) :=
  ⟨histogram_quantile_is_quantile.1 _ _ bucketed_fourMessages.cumulative .rfl bucketed_fourMessages.inOrder,
    histogram_quantile_is_quantile.2.1 _ _ bucketed_fourMessages .rfl bucketed_fourMessages.inOrder (1 / 2)
      (by norm_num) (by norm_num),
    histogram_quantile_is_quantile.2.2 ∅ "p" "in" "out" [oneMillisecond] (by decide) (by decide)⟩

theorem not_bucketed_of_zero {buckets : List HistogramBucket} (zero : ∀ bucket ∈ buckets, bucket.count = 0) :
    ¬ Bucketed buckets := by
  intro bucketed
  obtain ⟨bucket, member, positive⟩ := bucketed.positive
  rw [zero bucket member] at positive
  exact lt_irrefl _ positive

theorem zero_of_counted {latencies : List ℚ} {entry : LiveEntry} (counted : Counted latencies entry)
    (whole : latencies.length % 2 ^ 64 = 0) (each : ∀ bound ∈ latencyBuckets, countUpTo latencies bound % 2 ^ 64 = 0) :
    ∀ bucket ∈ entry.histogram, bucket.count = 0 := by
  rw [Entry.histogram, counted.buckets, zip_map_self, List.map_map, List.forall_mem_append,
    List.forall_mem_map, List.forall_mem_singleton]
  refine ⟨each, ?_⟩
  show (entry.data.messagesProcessed % 2 ^ 64).toNat = 0
  rw [counted.processed]
  omega

/-- Before the first call the counts are zero, and after `2 ^ 64` calls they are zero again. -/
theorem recorded_histogram_without_total :
    (∃ entry, (([] : List Success).foldl LiveStore.recordSuccess
        (LiveStore.register ∅ "p" "in" "out"))["p"]? = some entry ∧ ¬ Bucketed entry.histogram) ∧
      ∃ entry, ((List.replicate (2 ^ 64) oneMillisecond).foldl LiveStore.recordSuccess
        (LiveStore.register ∅ "p" "in" "out"))["p"]? = some entry ∧ ¬ Bucketed entry.histogram := by
  constructor
  · obtain ⟨entry, found, counted⟩ := counted_run ∅ "p" "in" "out" []
    exact ⟨entry, found, not_bucketed_of_zero (zero_of_counted counted rfl fun _ _ => rfl)⟩
  · obtain ⟨entry, found, counted⟩ := counted_run ∅ "p" "in" "out" (List.replicate (2 ^ 64) oneMillisecond)
    have latencies : latenciesOf "p" (List.replicate (2 ^ 64) oneMillisecond) = List.replicate (2 ^ 64) 1 := by
      rw [latenciesOf, List.filter_replicate_of_pos (by decide), List.map_replicate]
      rfl
    rw [latencies] at counted
    refine ⟨entry, found, not_bucketed_of_zero (zero_of_counted counted ?_ fun bound _ => ?_)⟩
    · rw [List.length_replicate, Nat.mod_self]
    · rw [countUpTo, List.countP_replicate]
      split
      · rw [Nat.mod_self]
      · rfl

end Instances

end MqConnector
