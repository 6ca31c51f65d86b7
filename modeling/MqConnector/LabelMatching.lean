/-
This file asks whether the binary operators of the alerting expressions match samples by
the identity of their label sets.

All five of them test with `labelsEqual`: the sizes agree, and every label of the left
sample is read on the right. A label that is absent reads as the empty text, so an empty
label on the left is also found where the right sample does not have it.
-/

import Mathlib.Data.List.Find
import MqConnector.Recordings

namespace MqConnector

namespace Slo

namespace Eval

variable {Value : Type}

/-! ### Label sets -/

/-- Label sets of one size in which every label of the first one is a label of the second with the
same value, or is empty and absent from the second; and there is one that is absent. -/
def Blurred (labels others : Labels) : Prop :=
  labels.size = others.size ∧
    (∀ name ∈ labels, labels[name]? = others[name]? ∨ name ∉ others ∧ labels[name]? = some "") ∧
    ∃ name ∈ labels, name ∉ others

theorem matchesMatchers_iff (labels matchers : Labels) :
    matchesMatchers labels matchers = true ↔
      ∀ name value, matchers[name]? = some value → labels.getD name "" = value := by
  simp only [matchesMatchers, List.all_eq_true, decide_eq_true_eq, Prod.forall]
  exact forall_congr' fun name => forall_congr' fun value =>
    imp_congr_left Std.ExtTreeMap.mem_toList_iff_getElem?_eq_some

theorem eq_of_size_eq {labels others : Labels} (size : labels.size = others.size)
    (found : ∀ name ∈ labels, labels[name]? = others[name]?) : labels = others := by
  have inOthers : ∀ name ∈ labels, name ∈ others := fun name member => by
    rw [← Std.ExtTreeMap.isSome_getElem?_iff_mem, ← found name member,
      Std.ExtTreeMap.isSome_getElem?_iff_mem]
    exact member
  have keys : labels.keys.Perm others.keys := by
    have within : labels.keys ⊆ others.keys := fun name member =>
      Std.ExtTreeMap.mem_keys.mpr (inOthers name (Std.ExtTreeMap.mem_keys.mp member))
    refine (Std.ExtTreeMap.nodup_keys.subperm within).perm_of_length_le ?_
    rw [Std.ExtTreeMap.length_keys, Std.ExtTreeMap.length_keys, size]
  refine Std.ExtTreeMap.ext_getElem? fun name => ?_
  by_cases member : name ∈ labels
  · exact found name member
  · have absent : name ∉ others := fun present => member
      (Std.ExtTreeMap.mem_keys.mp (keys.mem_iff.mpr (Std.ExtTreeMap.mem_keys.mpr present)))
    rw [Std.ExtTreeMap.getElem?_eq_none member, Std.ExtTreeMap.getElem?_eq_none absent]

theorem labelsEqual_self (labels : Labels) : labelsEqual labels labels = true := by
  rw [labelsEqual, Bool.and_eq_true, beq_iff_eq, matchesMatchers_iff]
  refine ⟨rfl, fun name value read => ?_⟩
  rw [Std.ExtTreeMap.getD_eq_getD_getElem?, read, Option.getD_some]

/-- Labels are found equal exactly if they are the same or blurred. -/
theorem labelsEqual_iff (labels others : Labels) :
    labelsEqual labels others = true ↔ labels = others ∨ Blurred labels others := by
  constructor
  · intro equal
    rw [labelsEqual, Bool.and_eq_true, beq_iff_eq, matchesMatchers_iff] at equal
    obtain ⟨size, reads⟩ := equal
    have each : ∀ name ∈ labels,
        labels[name]? = others[name]? ∨ name ∉ others ∧ labels[name]? = some "" := by
      intro name member
      obtain ⟨value, read⟩ := Option.isSome_iff_exists.mp (Std.ExtTreeMap.isSome_getElem?_iff_mem.mpr member)
      have same := reads name value read
      rw [Std.ExtTreeMap.getD_eq_getD_getElem?] at same
      cases there : others[name]? with
      | none =>
        rw [there, Option.getD_none] at same
        refine Or.inr ⟨fun present => ?_, by rw [read, same]⟩
        rw [← Std.ExtTreeMap.isSome_getElem?_iff_mem, there] at present
        cases present
      | some other =>
        rw [there, Option.getD_some] at same
        exact Or.inl (by rw [read, same])
    by_cases within : ∃ name ∈ labels, name ∉ others
    · exact Or.inr ⟨size, each, within⟩
    · push Not at within
      refine Or.inl (eq_of_size_eq size fun name member => ?_)
      exact (each name member).resolve_right fun absent => absent.1 (within name member)
  · rintro (rfl | ⟨size, each, -⟩)
    · exact labelsEqual_self labels
    · rw [labelsEqual, Bool.and_eq_true, beq_iff_eq, matchesMatchers_iff]
      refine ⟨size, fun name value read => ?_⟩
      have member : name ∈ labels := by
        rw [← Std.ExtTreeMap.isSome_getElem?_iff_mem, read]
        rfl
      rw [Std.ExtTreeMap.getD_eq_getD_getElem?]
      rcases each name member with same | ⟨absent, blank⟩
      · rw [← same, read, Option.getD_some]
      · rw [Std.ExtTreeMap.getElem?_eq_none absent, Option.getD_none]
        exact Option.some.inj (blank.symm.trans read)

/-- Blurred labels differ. -/
theorem Blurred.ne {labels others : Labels} (blurred : Blurred labels others) : labels ≠ others := by
  rintro rfl
  obtain ⟨-, -, name, member, absent⟩ := blurred
  exact absent member

/-! ### Operators -/

variable [Float64 Value]

/-- Every operator pairs a sample on the left with one on the right exactly if their label sets are
the same. A vector of one sample without labels is a scalar: a comparison and an arithmetic operator
then pair nothing. -/
structure MatchedByIdentity (lhs rhs : List (LabelSample Value)) : Prop where
  pairs : ∀ sample ∈ lhs, ∀ other ∈ rhs,
    labelsEqual sample.labels other.labels = true ↔ sample.labels = other.labels
  symmetric : ∀ sample ∈ lhs, ∀ other ∈ rhs,
    labelsEqual sample.labels other.labels = labelsEqual other.labels sample.labels
  transitive : ∀ sample ∈ lhs, ∀ other ∈ rhs, ∀ third ∈ lhs,
    labelsEqual sample.labels other.labels = true → labelsEqual other.labels third.labels = true →
      labelsEqual sample.labels third.labels = true
  conjunction : vectorAnd lhs rhs = lhs.filter fun sample =>
    decide (∃ other ∈ rhs, sample.labels = other.labels)
  disjunction : vectorOr lhs rhs = lhs ++ rhs.filter fun sample =>
    decide (¬ ∃ other ∈ lhs, sample.labels = other.labels)
  exclusion : vectorUnless lhs rhs = lhs.filter fun sample =>
    decide (¬ ∃ other ∈ rhs, sample.labels = other.labels)
  comparison : scalar? rhs = none → ∀ op, vectorCompare lhs rhs op = lhs.filter fun sample =>
    (rhs.find? fun other => decide (sample.labels = other.labels)).any fun other =>
      compareFloats op sample.value other.value
  arithmetic : scalar? lhs = none → scalar? rhs = none → ∀ op,
    vectorArith lhs rhs op = .ok (lhs.filterMap fun sample =>
      (rhs.find? fun other => decide (sample.labels = other.labels)).bind fun other =>
        (usable (arith op sample.value other.value)).map fun value => { sample with value })
  partition : (lhs.map (·.labels)).Nodup → (vectorAnd lhs rhs ++ vectorUnless lhs rhs).Perm lhs

omit [Float64 Value] in
theorem vectorAnd_append_vectorUnless (lhs rhs : List (LabelSample Value)) :
    (vectorAnd lhs rhs ++ vectorUnless lhs rhs).Perm lhs :=
  List.filter_append_perm _ lhs

section Identity

variable {lhs rhs : List (LabelSample Value)}
  (pairs : ∀ sample ∈ lhs, ∀ other ∈ rhs,
    labelsEqual sample.labels other.labels = true ↔ sample.labels = other.labels)

include pairs

omit [Float64 Value] in
theorem any_of_pairs {sample : LabelSample Value} (member : sample ∈ lhs) :
    (rhs.any fun other => labelsEqual sample.labels other.labels) =
      decide (∃ other ∈ rhs, sample.labels = other.labels) := by
  rw [Bool.eq_iff_iff, List.any_eq_true, decide_eq_true_eq]
  exact exists_congr fun other => and_congr_right fun present => pairs sample member other present

omit [Float64 Value] in
theorem any_of_pairs_right {sample : LabelSample Value} (member : sample ∈ rhs) :
    (lhs.any fun other => labelsEqual other.labels sample.labels) =
      decide (∃ other ∈ lhs, sample.labels = other.labels) := by
  rw [Bool.eq_iff_iff, List.any_eq_true, decide_eq_true_eq]
  refine exists_congr fun other => and_congr_right fun present => ?_
  rw [pairs other present sample member]
  exact eq_comm

omit [Float64 Value] in
theorem matching_of_pairs {sample : LabelSample Value} (member : sample ∈ lhs) :
    matching rhs sample = rhs.find? fun other => decide (sample.labels = other.labels) := by
  refine List.find?_congr fun other present => ?_
  rw [Bool.eq_iff_iff, decide_eq_true_eq]
  exact pairs sample member other present

theorem matchedByIdentity_of_pairs
    (back : ∀ sample ∈ lhs, ∀ other ∈ rhs,
      labelsEqual other.labels sample.labels = true ↔ other.labels = sample.labels) :
    MatchedByIdentity lhs rhs where
  pairs := pairs
  symmetric sample member other present := by
    rw [Bool.eq_iff_iff, pairs sample member other present, back sample member other present]
    exact eq_comm
  transitive sample member other present third _ first second := by
    rw [(pairs sample member other present).mp first]
    exact second
  conjunction := List.filter_congr fun _ member => any_of_pairs pairs member
  disjunction := by
    rw [vectorOr]
    congr 1
    refine List.filter_congr fun sample member => ?_
    rw [any_of_pairs_right pairs member, decide_not]
  exclusion := List.filter_congr fun sample member => by
    rw [any_of_pairs pairs member, decide_not]
  comparison noScalar op := by
    rw [vectorCompare, noScalar]
    refine List.filter_congr fun sample member => ?_
    rw [matching_of_pairs pairs member]
  arithmetic noLeft noRight op := by
    rw [vectorArith, noLeft, noRight]
    refine congrArg Except.ok (List.filterMap_congr fun sample member => ?_)
    rw [matching_of_pairs pairs member]
  partition _ := vectorAnd_append_vectorUnless lhs rhs

end Identity

/-- The operators match by the identity of label sets exactly if no two samples of the operands have
blurred label sets. -/
theorem matchedByIdentity_iff (lhs rhs : List (LabelSample Value)) :
    MatchedByIdentity lhs rhs ↔ ∀ sample ∈ lhs, ∀ other ∈ rhs,
      ¬ Blurred sample.labels other.labels ∧ ¬ Blurred other.labels sample.labels := by
  constructor
  · intro matched sample member other present
    have pairs := matched.pairs sample member other present
    refine ⟨fun blurred => blurred.ne (pairs.mp ((labelsEqual_iff _ _).mpr (Or.inr blurred))), ?_⟩
    intro blurred
    have equal := (labelsEqual_iff _ _).mpr (Or.inr blurred)
    rw [← matched.symmetric sample member other present] at equal
    exact blurred.ne (pairs.mp equal).symm
  · intro sharp
    refine matchedByIdentity_of_pairs (fun sample member other present => ?_)
      fun sample member other present => ?_
    · rw [labelsEqual_iff, or_iff_left (sharp sample member other present).1]
    · rw [labelsEqual_iff, or_iff_left (sharp sample member other present).2]

/-! ### Sums by different labels -/

section Instances

/-- One sample `m`, with a label `queue` and no label `pipeline`. -/
def queueOnly : Context Extended where
  current := [{ labels := (∅ : Labels).insert "__name__" "m" |>.insert "queue" "q", value := .finite 1 }]
  sortPoints := id
  permutes samples := List.Perm.refl samples

/-- `sum by (label) (m)`. -/
def sumBy (label : String) : AstNode Extended :=
  .funcCall "sum" [.vectorSelector { name := "m" }] [label]

/-- The only sample of `sumBy`. -/
def summed (label value : String) : List (LabelSample Extended) :=
  [{ labels := (∅ : Labels).insert label value, value := .finite 1 }]

theorem evaluates_sumBy (label : String) :
    Evaluates queueOnly (sumBy label) ∅
      (.ok (summed label (((∅ : Labels).insert "queue" "q").getD label ""))) ∅ := by
  refine ⟨1, fun bound enough => ?_⟩
  obtain ⟨bound, rfl⟩ := Nat.exists_eq_add_of_le' enough
  have lowered : "sum".toLower = "sum" := by
    rw [toLower_eq_ofList]
    rfl
  have unnamed : copyLabelsWithout (((∅ : Labels).insert "__name__" "m").insert "queue" "q") "__name__" =
      (∅ : Labels).insert "queue" "q" := by decide
  have added : (0 : Extended) + .finite 1 = .finite 1 := by decide +kernel
  rw [eval, sumBy, evalNode, evalFunc, lowered, ← unnamed, summed, ← added]
  rfl

/-- `sum by (pipeline) (m) and sum by (queue) (m)` pairs two samples whose label sets differ, and the
other way round it does not. -/
theorem sums_matched_not_by_identity :
    Evaluates queueOnly (sumBy "pipeline") ∅ (.ok (summed "pipeline" "")) ∅ ∧
      Evaluates queueOnly (sumBy "queue") ∅ (.ok (summed "queue" "q")) ∅ ∧
      vectorAnd (summed "pipeline" "") (summed "queue" "q") = summed "pipeline" "" ∧
      vectorAnd (summed "queue" "q") (summed "pipeline" "") = [] ∧
      ¬ MatchedByIdentity (summed "pipeline" "") (summed "queue" "q") := by
  refine ⟨?_, ?_, rfl, rfl, fun matched => ?_⟩
  · have absent : ((∅ : Labels).insert "queue" "q").getD "pipeline" "" = "" := by decide
    exact absent ▸ evaluates_sumBy "pipeline"
  · have present : ((∅ : Labels).insert "queue" "q").getD "queue" "" = "q" := by decide
    exact present ▸ evaluates_sumBy "queue"
  · have equal := matched.symmetric _ (List.mem_singleton_self _) _ (List.mem_singleton_self _)
    exact absurd equal (by decide)

end Instances

end Eval

end Slo

end MqConnector
