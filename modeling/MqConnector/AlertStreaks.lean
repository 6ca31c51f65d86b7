/-
This file asks when an alert is firing.

An alert of a rule and a label set should fire exactly when the label set was in the
result of the rule at every tick of an unbroken run of ticks up to now, and the run is as
long as the rule asks for. The maps know alerts only by their key, and the key has the
name of the rule and the labels, not the rule. So this is so for a pair whose key no
other pair in the results has.
-/

import Mathlib.Data.List.Induction
import MqConnector.Alerts

namespace MqConnector

namespace Slo

variable {Value : Type} {renderThreshold : String → String}

/-! ### Streaks -/

/-- The label set is in the result of the rule with this index. -/
def Tick.sees (input : Tick Value) (index : Nat) (labels : Labels) : Bool :=
  match input.results index with
  | .ok vector => vector.any fun sample => decide (sample.labels = labels)
  | .error _ => false

/-- The ticks of the current unbroken run, the newest first. -/
def streak (index : Nat) (labels : Labels) (ticks : List (Tick Value)) : List (Tick Value) :=
  ticks.reverse.takeWhile fun input => input.sees index labels

/-- The time of the first tick of the current unbroken run. -/
def began (index : Nat) (labels : Labels) (ticks : List (Tick Value)) : Option Int :=
  (streak index labels ticks).getLast?.map Tick.now

theorem began_append (index : Nat) (labels : Labels) (ticks : List (Tick Value)) (input : Tick Value) :
    began index labels (ticks ++ [input]) =
      if input.sees index labels then some ((began index labels ticks).getD input.now) else none := by
  unfold began streak
  rw [List.reverse_append, List.reverse_singleton, List.singleton_append, List.takeWhile_cons]
  split
  · rw [List.getLast?_cons, Option.map_some]
    cases (ticks.reverse.takeWhile fun input => input.sees index labels).getLast? with
    | none => rfl
    | some first => rfl
  · rfl

/-- No other pair in the results has the key. -/
def Apart (rules : List Rule) (ticks : List (Tick Value)) (index : Nat) (rule : Rule) (labels : Labels) :
    Prop :=
  ∀ input ∈ ticks, ∀ other otherRule, rules[other]? = some otherRule →
    ∀ otherLabels, input.sees other otherLabels = true →
      alertKey otherRule.name otherLabels = alertKey rule.name labels →
        other = index ∧ otherLabels = labels

/-! ### One sample -/

section Observe

variable {rule : Rule} {now : Int} {pass : Pass Value} {sample : LabelSample Value} {key : String}

theorem observe_other (other : alertKey rule.name sample.labels ≠ key) :
    (observe renderThreshold rule now pass sample).pending[key]? = pass.pending[key]? ∧
      (observe renderThreshold rule now pass sample).firing[key]? = pass.firing[key]? := by
  unfold observe
  dsimp only
  split
  · simp [Std.ExtTreeMap.getElem?_insert, other]
  · split
    · split
      · simp [Std.ExtTreeMap.getElem?_insert, Std.ExtTreeMap.getElem?_erase, other]
      · exact ⟨rfl, rfl⟩
    · split
      · simp [Std.ExtTreeMap.getElem?_insert, other]
      · simp [Std.ExtTreeMap.getElem?_insert, other]

theorem observe_alive :
    (observe renderThreshold rule now pass sample).alive =
      pass.alive.insert (alertKey rule.name sample.labels) := by
  unfold observe
  dsimp only
  split
  · rfl
  · split
    · split
      · rfl
      · rfl
    · split
      · rfl
      · rfl

/-- The entries of a key with a streak that began at a time, seen at a later one. -/
def Tracks (renderThreshold : String → String) (rule : Rule) (labels : Labels) (began : Option Int)
    (now : Int) (pending : Option Int) (firing : Option (FiringAlert Value)) : Prop :=
  match began with
  | none => pending = none ∧ firing = none
  | some started =>
    if rule.forDuration.nanoseconds ≤ now - started then
      pending = none ∧ ∃ value, firing = some (fire renderThreshold rule ⟨labels, value⟩ started)
    else pending = some started ∧ firing = none

theorem Tracks.observe (nonnegative : 0 ≤ rule.forDuration.nanoseconds) {labels : Labels}
    {began : Option Int} {earlier : Int} (later : ∀ started ∈ began, earlier ≤ now)
    (tracks : Tracks renderThreshold rule labels began earlier
      pass.pending[alertKey rule.name labels]? pass.firing[alertKey rule.name labels]?)
    (same : sample.labels = labels) :
    Tracks renderThreshold rule labels (some (began.getD now)) now
      (observe renderThreshold rule now pass sample).pending[alertKey rule.name labels]?
      (observe renderThreshold rule now pass sample).firing[alertKey rule.name labels]? := by
  subst same
  unfold Slo.observe
  dsimp only
  cases began with
  | none =>
    obtain ⟨notPending, notFiring⟩ := tracks
    rw [notFiring, notPending]
    show Tracks _ _ _ (some now) _ _ _
    unfold Tracks
    dsimp only
    rw [Int.sub_self]
    by_cases immediate : rule.forDuration.nanoseconds = 0
    · rw [if_pos immediate, if_pos (by omega)]
      exact ⟨notPending, sample.value, Std.ExtTreeMap.getElem?_insert_self⟩
    · rw [if_neg immediate, if_neg (by omega)]
      exact ⟨Std.ExtTreeMap.getElem?_insert_self, notFiring⟩
  | some started =>
    have ordered := later started rfl
    show Tracks _ _ _ (some started) _ _ _
    unfold Tracks at tracks ⊢
    dsimp only at tracks ⊢
    split at tracks
    · rename_i elapsed
      obtain ⟨notPending, value, firing⟩ := tracks
      rw [firing, if_pos (by omega)]
      refine ⟨notPending, sample.value, ?_⟩
      simp [fire]
    · obtain ⟨pending, notFiring⟩ := tracks
      rw [notFiring, pending]
      simp only [le_sub_iff _ nonnegative]
      split
      · refine ⟨by simp, sample.value, by simp⟩
      · exact ⟨pending, notFiring⟩

end Observe

/-! ### One tick -/

section Tick

variable {rules : List Rule} {input : Tick Value} {rule : Rule} {labels : Labels} {index : Nat}
  {key : String}

/-- All samples of a tick in the order in which they are observed, with their rules. -/
def sightings (input : Tick Value) (entries : List (Rule × Nat)) :
    List ((Rule × Nat) × LabelSample Value) :=
  entries.flatMap fun entry =>
    match input.results entry.2 with
    | .error _ => []
    | .ok vector => vector.map fun sample => (entry, sample)

/-- Observe a sample with its rule. -/
def sight (renderThreshold : String → String) (now : Int) (pass : Pass Value)
    (sighting : (Rule × Nat) × LabelSample Value) : Pass Value :=
  observe renderThreshold sighting.1.1 now pass sighting.2

def sightedKey (sighting : (Rule × Nat) × LabelSample Value) : String :=
  alertKey sighting.1.1.name sighting.2.labels

theorem foldl_evaluateRule (entries : List (Rule × Nat)) (pass : Pass Value) :
    entries.foldl (evaluateRule renderThreshold input) pass =
      (sightings input entries).foldl (sight renderThreshold input.now) pass := by
  unfold sightings
  rw [List.foldl_flatMap]
  congr 1
  funext pass entry
  unfold evaluateRule
  cases input.results entry.2 with
  | error failure => rfl
  | ok vector =>
    dsimp only
    rw [List.foldl_map]
    rfl

theorem sees_of_mem_sightings {sighting : (Rule × Nat) × LabelSample Value}
    (member : sighting ∈ sightings input rules.zipIdx) :
    rules[sighting.1.2]? = some sighting.1.1 ∧
      input.sees sighting.1.2 sighting.2.labels = true := by
  obtain ⟨entry, listed, found⟩ := List.mem_flatMap.mp member
  split at found
  · exact absurd found List.not_mem_nil
  · rename_i vector evaluated
    obtain ⟨sample, among, rfl⟩ := List.mem_map.mp found
    refine ⟨List.mem_zipIdx_iff_getElem?.mp listed, ?_⟩
    unfold Tick.sees
    rw [evaluated]
    exact List.any_eq_true.mpr ⟨sample, among, decide_eq_true rfl⟩

theorem mem_sightings_of_sees (known : rules[index]? = some rule)
    (seen : input.sees index labels = true) :
    ∃ sample : LabelSample Value, sample.labels = labels ∧
      ((rule, index), sample) ∈ sightings input rules.zipIdx := by
  unfold Tick.sees at seen
  split at seen
  · rename_i vector evaluated
    obtain ⟨sample, among, same⟩ := List.any_eq_true.mp seen
    refine ⟨sample, of_decide_eq_true same, List.mem_flatMap.mpr ⟨(rule, index), ?_, ?_⟩⟩
    · exact List.mem_zipIdx_iff_getElem?.mpr known
    · dsimp only
      rw [evaluated]
      exact List.mem_map_of_mem among
  · exact absurd seen Bool.false_ne_true

theorem alive_foldl (found : List ((Rule × Nat) × LabelSample Value)) (pass : Pass Value) :
    (found.foldl (sight renderThreshold input.now) pass).alive.contains key =
      (pass.alive.contains key || found.any fun sighting => decide (sightedKey sighting = key)) := by
  induction found generalizing pass with
  | nil => rw [List.foldl_nil, List.any_nil, Bool.or_false]
  | cons sighting rest hypothesis =>
    rw [List.foldl_cons, hypothesis, List.any_cons, sight, observe_alive,
      Std.ExtTreeSet.contains_insert, Bool.or_comm (_ == _), Bool.or_assoc]
    congr 2
    rw [Bool.eq_iff_iff, beq_iff_eq, Std.compare_eq_iff_eq, decide_eq_true_iff]
    rfl

theorem Tracks.foldl (nonnegative : 0 ≤ rule.forDuration.nanoseconds)
    {found : List ((Rule × Nat) × LabelSample Value)}
    (apart : ∀ sighting ∈ found, sightedKey sighting = alertKey rule.name labels →
      sighting.1.1 = rule ∧ sighting.2.labels = labels)
    {pass : Pass Value} {began : Option Int} {earlier : Int}
    (later : ∀ started ∈ began, earlier ≤ input.now)
    (tracks : Tracks renderThreshold rule labels began earlier
      pass.pending[alertKey rule.name labels]? pass.firing[alertKey rule.name labels]?) :
    let touched := found.any fun sighting => decide (sightedKey sighting = alertKey rule.name labels)
    let after := found.foldl (sight renderThreshold input.now) pass
    Tracks renderThreshold rule labels (if touched then some (began.getD input.now) else began)
      (if touched then input.now else earlier)
      after.pending[alertKey rule.name labels]? after.firing[alertKey rule.name labels]? := by
  induction found generalizing pass began earlier with
  | nil => exact tracks
  | cons sighting rest hypothesis =>
    have apartRest := fun other member => apart other (List.mem_cons_of_mem sighting member)
    dsimp only
    rw [List.foldl_cons, List.any_cons]
    by_cases mine : sightedKey sighting = alertKey rule.name labels
    · obtain ⟨same, sameLabels⟩ := apart sighting List.mem_cons_self mine
      have moved := tracks.observe nonnegative later sameLabels
      have done := @hypothesis apartRest (sight renderThreshold input.now pass sighting)
        (some (began.getD input.now)) input.now (fun _ _ => Int.le_refl _)
        (by rw [sight, same]; exact moved)
      rw [decide_eq_true mine, Bool.true_or, if_pos rfl, if_pos rfl]
      dsimp only at done
      rw [ite_self, Option.getD_some, ite_self] at done
      exact done
    · obtain ⟨samePending, sameFiring⟩ :=
        @observe_other Value renderThreshold sighting.1.1 input.now pass sighting.2 _ mine
      rw [decide_eq_false mine, Bool.false_or]
      refine hypothesis apartRest later ?_
      rw [sight, samePending, sameFiring]
      exact tracks

theorem tick_entries (evaluator : Evaluator Value) (key : String) :
    let pass := (sightings input rules.zipIdx).foldl (sight renderThreshold input.now) { evaluator with }
    let alive := (sightings input rules.zipIdx).any fun sighting => decide (sightedKey sighting = key)
    (tick renderThreshold rules evaluator input).pending[key]? =
        (if alive then pass.pending[key]? else none) ∧
      (tick renderThreshold rules evaluator input).firing[key]? =
        (if alive then pass.firing[key]? else none) := by
  have filtered : ∀ {Entry : Type} (entry : Option Entry) (alive : Bool),
      (entry.filter fun _ => alive) = if alive then entry else none := by
    intro Entry entry alive
    cases entry with
    | none => rw [Option.filter_none, ite_self]
    | some found => rfl
  unfold tick
  dsimp only
  rw [foldl_evaluateRule, Std.ExtTreeMap.getElem?_filter', Std.ExtTreeMap.getElem?_filter', filtered,
    filtered, alive_foldl]
  exact ⟨rfl, rfl⟩

theorem Tracks.tick (nonnegative : 0 ≤ rule.forDuration.nanoseconds)
    (known : rules[index]? = some rule) (apart : Apart rules [input] index rule labels)
    {evaluator : Evaluator Value} {began : Option Int} {earlier : Int}
    (later : ∀ started ∈ began, earlier ≤ input.now)
    (tracks : Tracks renderThreshold rule labels began earlier
      evaluator.pending[alertKey rule.name labels]? evaluator.firing[alertKey rule.name labels]?) :
    Tracks renderThreshold rule labels
      (if input.sees index labels then some (began.getD input.now) else none) input.now
      (tick renderThreshold rules evaluator input).pending[alertKey rule.name labels]?
      (tick renderThreshold rules evaluator input).firing[alertKey rule.name labels]? := by
  have mine : ∀ sighting ∈ sightings input rules.zipIdx,
      sightedKey sighting = alertKey rule.name labels →
        sighting.1.2 = index ∧ sighting.2.labels = labels := by
    intro sighting member same
    obtain ⟨listed, seen⟩ := sees_of_mem_sightings member
    exact apart input (List.mem_singleton_self input) _ _ listed _ seen same
  have apartSightings : ∀ sighting ∈ sightings input rules.zipIdx,
      sightedKey sighting = alertKey rule.name labels →
        sighting.1.1 = rule ∧ sighting.2.labels = labels := by
    intro sighting member same
    obtain ⟨listed, -⟩ := sees_of_mem_sightings member
    obtain ⟨place, equal⟩ := mine sighting member same
    rw [place, known] at listed
    exact ⟨(Option.some.inj listed).symm, equal⟩
  -- the key is alive if and only if the rule returned the label set
  have alive : ((sightings input rules.zipIdx).any fun sighting =>
      decide (sightedKey sighting = alertKey rule.name labels)) = input.sees index labels := by
    rw [Bool.eq_iff_iff]
    constructor
    · intro any
      obtain ⟨sighting, member, same⟩ := List.any_eq_true.mp any
      obtain ⟨place, equal⟩ := mine sighting member (of_decide_eq_true same)
      obtain ⟨-, seen⟩ := sees_of_mem_sightings member
      rw [place, equal] at seen
      exact seen
    · intro seen
      obtain ⟨sample, equal, member⟩ := mem_sightings_of_sees known seen
      refine List.any_eq_true.mpr ⟨_, member, decide_eq_true ?_⟩
      rw [sightedKey, equal]
  have folded := @Tracks.foldl Value renderThreshold input rule labels nonnegative _ apartSightings
    { evaluator with } began earlier later tracks
  obtain ⟨pending, firing⟩ :=
    @tick_entries Value renderThreshold rules input evaluator (alertKey rule.name labels)
  rw [pending, firing]
  dsimp only at folded ⊢
  rw [alive] at folded ⊢
  cases seen : input.sees index labels with
  | false => exact ⟨rfl, rfl⟩
  | true =>
    rw [seen] at folded
    exact folded

end Tick

/-! ### Runs of ticks -/

section Run

variable {rules : List Rule}

theorem Apart.sublist {former latter : List (Tick Value)} {index : Nat} {rule : Rule} {labels : Labels}
    (apart : Apart rules latter index rule labels) (within : former ⊆ latter) :
    Apart rules former index rule labels :=
  fun input member => apart input (within member)

/-- After every run the table of alerts tells the streak of each rule. -/
theorem tracks_run (ticks : List (Tick Value))
    (clock : ticks.Pairwise fun former latter => former.now ≤ latter.now) {index : Nat} {rule : Rule}
    {labels : Labels} (nonnegative : 0 ≤ rule.forDuration.nanoseconds)
    (known : rules[index]? = some rule) (apart : Apart rules ticks index rule labels) :
    Tracks renderThreshold rule labels (began index labels ticks)
      ((ticks.getLast?.map Tick.now).getD 0)
      (run renderThreshold rules ticks).pending[alertKey rule.name labels]?
      (run renderThreshold rules ticks).firing[alertKey rule.name labels]? := by
  induction ticks using List.reverseRecOn with
  | nil => exact ⟨Std.ExtTreeMap.getElem?_empty, Std.ExtTreeMap.getElem?_empty⟩
  | append_singleton ticks input hypothesis =>
    have before := hypothesis (List.pairwise_append.mp clock).1
      (apart.sublist (List.subset_append_left _ _))
    -- a streak that has begun has a last tick, and the clock did not go back since
    have later : ∀ started ∈ began index labels ticks, (ticks.getLast?.map Tick.now).getD 0 ≤ input.now := by
      intro started running
      cases final : ticks.getLast? with
      | none =>
        rw [List.getLast?_eq_none_iff.mp final] at running
        exact absurd running.symm (Option.some_ne_none _)
      | some last =>
        exact (List.pairwise_append.mp clock).2.2 last (List.mem_of_getLast? final) input
          (List.mem_singleton_self input)
    have moved := before.tick nonnegative known (apart.sublist (List.subset_append_right _ _)) later
    rw [began_append, List.getLast?_concat, run, List.foldl_append, List.foldl_cons, List.foldl_nil]
    exact moved

/-- No key is both pending and firing. -/
def Evaluator.Exclusive (evaluator : Evaluator Value) : Prop :=
  ∀ key : String, evaluator.pending[key]? = none ∨ evaluator.firing[key]? = none

theorem Exclusive.observe {rule : Rule} {now : Int} {pass : Pass Value} {sample : LabelSample Value}
    (exclusive : pass.toEvaluator.Exclusive) :
    (observe renderThreshold rule now pass sample).toEvaluator.Exclusive := by
  intro key
  by_cases mine : alertKey rule.name sample.labels = key
  · subst mine
    unfold Slo.observe
    dsimp only
    split
    · rename_i alert firing
      left
      refine (exclusive _).resolve_right ?_
      rw [firing]
      exact Option.some_ne_none alert
    · rename_i notFiring
      split
      · split
        · exact Or.inl Std.ExtTreeMap.getElem?_erase_self
        · exact Or.inr notFiring
      · rename_i notPending
        split
        · exact Or.inl notPending
        · exact Or.inr notFiring
  · obtain ⟨samePending, sameFiring⟩ :=
      @observe_other Value renderThreshold rule now pass sample key mine
    rw [samePending, sameFiring]
    exact exclusive key

theorem Exclusive.tick {input : Tick Value} {evaluator : Evaluator Value}
    (exclusive : evaluator.Exclusive) : (tick renderThreshold rules evaluator input).Exclusive := by
  have folded : ∀ (found : List ((Rule × Nat) × LabelSample Value)) (pass : Pass Value),
      pass.toEvaluator.Exclusive →
        (found.foldl (sight renderThreshold input.now) pass).toEvaluator.Exclusive := by
    intro found
    induction found with
    | nil => exact fun _ kept => kept
    | cons sighting rest hypothesis =>
      exact fun pass kept => hypothesis _ (Exclusive.observe kept)
  intro key
  obtain ⟨pending, firing⟩ := @tick_entries Value renderThreshold rules input evaluator key
  rw [pending, firing]
  split
  · exact folded _ { evaluator with } exclusive key
  · exact Or.inl rfl

/-- No alert is pending and firing at once. -/
theorem exclusive_run (ticks : List (Tick Value)) : (run renderThreshold rules ticks).Exclusive := by
  unfold run
  induction ticks using List.reverseRecOn with
  | nil => exact fun _ => Or.inl Std.ExtTreeMap.getElem?_empty
  | append_singleton ticks input hypothesis =>
    rw [List.foldl_append]
    exact Exclusive.tick hypothesis

/-- The labels of the rule win over those of the sample. -/
theorem mergeLabels_rule {ruleLabels vecLabels : Labels} {name value : String}
    (labelled : ruleLabels[name]? = some value) :
    (mergeLabels ruleLabels vecLabels)[name]? = some value := by
  rw [mergeLabels, Std.ExtTreeMap.getElem?_union, labelled, Option.some_or]

end Run

/-! ### Firing alerts -/

/-- After the last tick, the alert of the pair is firing if and only if its streak is long enough; it has
started with the streak, and it is the alert of the rule, with the labels of the rule. -/
structure FiresOnStreak (renderThreshold : String → String) (rules : List Rule) (ticks : List (Tick Value))
    (last : Tick Value) (index : Nat) (rule : Rule) (labels : Labels) : Prop where
  firing : (run renderThreshold rules (ticks ++ [last])).firing[alertKey rule.name labels]?.isSome = true ↔
    ∃ first, (streak index labels (ticks ++ [last])).getLast? = some first ∧
      rule.forDuration.nanoseconds ≤ last.now - first.now
  alert : ∀ alert ∈ (run renderThreshold rules (ticks ++ [last])).firing[alertKey rule.name labels]?,
    ∃ first value, (streak index labels (ticks ++ [last])).getLast? = some first ∧
      alert = fire renderThreshold rule ⟨labels, value⟩ first.now ∧
      ∀ name text : String, rule.labels[name]? = some text → alert.labels[name]? = some text

theorem firesOnStreak_of_silent {renderThreshold : String → String} {rules : List Rule}
    {ticks : List (Tick Value)} {last : Tick Value} {index : Nat} {rule : Rule} {labels : Labels}
    (silent : (run renderThreshold rules (ticks ++ [last])).firing[alertKey rule.name labels]? = none)
    (waits : ∀ first, (streak index labels (ticks ++ [last])).getLast? = some first →
      ¬ rule.forDuration.nanoseconds ≤ last.now - first.now) :
    FiresOnStreak renderThreshold rules ticks last index rule labels := by
  refine ⟨?_, ?_⟩
  · rw [silent]
    refine ⟨fun absent => absurd absent Bool.false_ne_true, ?_⟩
    rintro ⟨first, final, elapsed⟩
    exact absurd elapsed (waits first final)
  · intro alert member
    rw [silent] at member
    exact absurd member.symm (Option.some_ne_none alert)

/-- After every tick no key is both pending and firing, and every pair that shares its key with no other
pair in the results so far fires on its streaks. -/
theorem firesOnStreak (renderThreshold : String → String) (rules : List Rule)
    (nonnegative : ∀ rule ∈ rules, 0 ≤ rule.forDuration.nanoseconds) (ticks : List (Tick Value))
    (last : Tick Value)
    (clock : (ticks ++ [last]).Pairwise fun former latter => former.now ≤ latter.now) :
    (run renderThreshold rules (ticks ++ [last])).Exclusive ∧
      ∀ index rule labels, rules[index]? = some rule →
        Apart rules (ticks ++ [last]) index rule labels →
          FiresOnStreak renderThreshold rules ticks last index rule labels := by
  refine ⟨exclusive_run _, fun index rule labels known apart => ?_⟩
  have tracks := @tracks_run Value renderThreshold rules _ clock index rule labels
    (nonnegative rule (List.mem_of_getElem? known)) known apart
  rw [List.getLast?_concat, Option.map_some, Option.getD_some, began] at tracks
  cases final : (streak index labels (ticks ++ [last])).getLast? with
  | none =>
    rw [final] at tracks
    refine firesOnStreak_of_silent tracks.2 fun first found => ?_
    exact absurd (final.symm.trans found) (Option.some_ne_none first).symm
  | some first =>
    rw [final] at tracks
    unfold Tracks at tracks
    dsimp only [Option.map_some] at tracks
    split at tracks
    · rename_i elapsed
      obtain ⟨-, value, found⟩ := tracks
      refine ⟨?_, ?_⟩
      · rw [found]
        exact ⟨fun _ => ⟨first, final, elapsed⟩, fun _ => rfl⟩
      · intro alert member
        obtain rfl := Option.some.inj (found.symm.trans member)
        exact ⟨first, value, final, rfl, fun name text => mergeLabels_rule⟩
    · rename_i waits
      refine firesOnStreak_of_silent tracks.2 fun other same => ?_
      obtain rfl := Option.some.inj (final.symm.trans same)
      exact waits

/-! ### Two rules -/

def depthRule (name bound severity : String) (forDuration : Duration) : Rule where
  name := name
  expr := "mqconnector_source_depth > " ++ bound
  forDuration := forDuration
  labels := (∅ : Labels).insert "severity" severity
  group := "depth"

def seconds (count : Fin 3600) : Duration where
  nanoseconds := count * 1000000000
  low := by omega
  high := by omega

/-- `renderThreshold` on their expressions. -/
def depthThreshold (expr : String) : String :=
  if expr = "mqconnector_source_depth > 1000" then "> 1000"
  else if expr = "mqconnector_source_depth > 100" then "> 100"
  else ""

/-- The labels of the depth of a source, without the name of the metric. -/
def depthLabels : Labels :=
  ((∅ : Labels).insert "pipeline_id" "p1").insert "source" "orders"

/-- A tick at which the first rules return the depth, and the others fail. -/
def depthTick (rules : Nat) (now : Int) : Tick Int where
  now := now * 1000000000
  results index := if index < rules then .ok [⟨depthLabels, 5000⟩] else .error "unsupported function"

/-- Two rules of different names; the second one fails at every tick. -/
def twoNames : List Rule :=
  [depthRule "DepthHigh" "100" "warning" (seconds 60), depthRule "DepthCritical" "1000" "critical" (seconds 0)]

theorem apart_twoNames (ticks : List (Tick Int)) (only : ∀ input ∈ ticks, ∃ now, input = depthTick 1 now) :
    Apart twoNames ticks 0 (depthRule "DepthHigh" "100" "warning" (seconds 60)) depthLabels := by
  intro input member other otherRule known otherLabels seen same
  obtain ⟨now, rfl⟩ := only input member
  by_cases first : other < 1
  · refine ⟨by omega, ?_⟩
    simp only [Tick.sees, depthTick, if_pos first, List.any_cons, List.any_nil, Bool.or_false,
      decide_eq_true_iff] at seen
    exact seen.symm
  · simp only [Tick.sees, depthTick, if_neg first] at seen
    exact absurd seen Bool.false_ne_true

/-- The alert waits at the second tick and fires at the third, since the first. -/
theorem depthRule_fires :
    ((run depthThreshold twoNames [depthTick 1 0, depthTick 1 30]).firing[alertKey "DepthHigh" depthLabels]? =
        none ∧
      (run depthThreshold twoNames [depthTick 1 0, depthTick 1 30, depthTick 1 60]).firing[
        alertKey "DepthHigh" depthLabels]?.map FiringAlert.startedAt = some 0) ∧
      FiresOnStreak depthThreshold twoNames [depthTick 1 0, depthTick 1 30] (depthTick 1 60) 0
        (depthRule "DepthHigh" "100" "warning" (seconds 60)) depthLabels := by
  refine ⟨by decide +kernel, ?_⟩
  refine (firesOnStreak depthThreshold twoNames (by decide) [depthTick 1 0, depthTick 1 30]
    (depthTick 1 60) (by decide)).2 0 _ depthLabels rfl (apart_twoNames _ ?_)
  intro input member
  simp only [List.mem_append, List.mem_cons, List.not_mem_nil, or_false] at member
  rcases member with (rfl | rfl) | rfl
  · exact ⟨0, rfl⟩
  · exact ⟨30, rfl⟩
  · exact ⟨60, rfl⟩

def oneName : List Rule :=
  [depthRule "Depth" "1000" "critical" (seconds 0), depthRule "Depth" "100" "warning" (seconds 600)]

/-- The second rule waits for ten minutes, and its alert is firing at its first tick, as a critical one. -/
theorem oneName_shared :
    (run depthThreshold oneName ([] ++ [depthTick 2 0])).firing[alertKey "Depth" depthLabels]?.map
        FiringAlert.severity = some "critical" ∧
      ¬ FiresOnStreak depthThreshold oneName [] (depthTick 2 0) 1
        (depthRule "Depth" "100" "warning" (seconds 600)) depthLabels := by
  refine ⟨by decide +kernel, fun fires => ?_⟩
  obtain ⟨first, final, elapsed⟩ := fires.firing.mp (by decide +kernel)
  have start : began 1 depthLabels [depthTick 2 0] = some 0 := by decide
  have same : some first.now = some 0 := by
    rw [← start, began, ← List.nil_append [depthTick 2 0], final, Option.map_some]
  have zero : first.now = 0 := Option.some.inj same
  rw [zero] at elapsed
  exact absurd elapsed (by decide)

end Slo

end MqConnector
