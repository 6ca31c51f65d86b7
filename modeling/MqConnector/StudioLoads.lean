/-
This file asks whether the studio shows the pipeline that was asked for last.

A call of `hydrate` waits for six fetches and then overwrites the whole store, whatever has been
called in the meantime. So the answers of an older call replace those of a later one that is already
done.
-/

import MqConnector.Runs
import MqConnector.StudioDraft

namespace MqConnector

namespace Studio

variable {Json : Type}

/-- A call of `hydrate` that waits for its fetches. -/
structure PendingCall (Json : Type) where
  call : Nat
  pipelineId : String
  pipeline : Option (Settled Json) := none
  stages : Option (Settled (List Stage)) := none
  transforms : Option (Settled (List Json)) := none
  rules : Option (Settled (List Json)) := none
  revisions : Option (Settled (List Json)) := none
  current : Option (Settled Json) := none

inductive Arrival (Json : Type)
  | pipeline (settled : Settled Json)
  | stages (settled : Settled (List Stage))
  | transforms (settled : Settled (List Json))
  | rules (settled : Settled (List Json))
  | revisions (settled : Settled (List Json))
  | current (settled : Settled Json)

/-- A call takes an answer that it still waits for. -/
def PendingCall.take (pending : PendingCall Json) : Arrival Json → Option (PendingCall Json)
  | .pipeline settled => if pending.pipeline.isSome then none else some { pending with pipeline := some settled }
  | .stages settled => if pending.stages.isSome then none else some { pending with stages := some settled }
  | .transforms settled => if pending.transforms.isSome then none else some { pending with transforms := some settled }
  | .rules settled => if pending.rules.isSome then none else some { pending with rules := some settled }
  | .revisions settled => if pending.revisions.isSome then none else some { pending with revisions := some settled }
  | .current settled => if pending.current.isSome then none else some { pending with current := some settled }

/-- `Promise.all`: the answers, once there are all six. -/
def PendingCall.answers (pending : PendingCall Json) : Option (Answers Json) := do
  let pipeline ← pending.pipeline
  let stages ← pending.stages
  let transforms ← pending.transforms
  let rules ← pending.rules
  let revisions ← pending.revisions
  let current ← pending.current
  some { pipeline, stages, transforms, rules, revisions, current }

/-- The store, the calls that are waiting, and of the last call its number and its result. -/
structure Loads (Json : Type) where
  store : Data Json := emptyData ""
  waiting : List (PendingCall Json) := []
  calls : Nat := 0
  last : Nat := 0
  result : Option (Data Json) := some (emptyData "")

inductive LoadLabel (Json : Type)
  | hydrate (pipelineId : String)
  | reset
  | arrives (call : Nat) (arrival : Arrival Json)

namespace Loads

def step (keys : Keys Json) (state : Loads Json) : LoadLabel Json → Option (Loads Json)
  | .hydrate pipelineId => some { state with
      store := emptyData pipelineId
      waiting := { call := state.calls + 1, pipelineId } :: state.waiting
      calls := state.calls + 1
      last := state.calls + 1
      result := none }
  | .reset => some { state with
      store := emptyData ""
      calls := state.calls + 1
      last := state.calls + 1
      result := some (emptyData "") }
  | .arrives call arrival => do
    let pending ← state.waiting.find? fun pending => pending.call = call
    let pending ← pending.take arrival
    let others := state.waiting.filter fun pending => pending.call ≠ call
    match pending.answers with
    | none => some { state with waiting := pending :: others }
    | some answers =>
      let data := hydrated keys pending.pipelineId answers
      some { state with
        store := data
        waiting := others
        result := if call = state.last then some data else state.result }

/-- Once no fetch is outstanding, the store holds the result of the last call. -/
def ShowsLast (state : Loads Json) : Prop :=
  state.waiting = [] → state.result = some state.store

/-- An answer is not the last one of an older call, once the last call is done. -/
def Timely (state : Loads Json) : LoadLabel Json → Prop
  | .arrives call arrival => call = state.last ∨ state.result = none ∨
      ∀ pending ∈ state.waiting.find? fun pending => pending.call = call,
        ((pending.take arrival).bind PendingCall.answers).isNone = true
  | _ => True

/-! ### Every run -/

section Runs

variable {keys : Keys Json} {state after : Loads Json} {label : LoadLabel Json}

/-- The last call is waiting until it has a result, and then the store holds the result. -/
structure Consistent (state : Loads Json) : Prop where
  waits : state.result = none → ∃ pending ∈ state.waiting, pending.call = state.last
  shows : ∀ data ∈ state.result, state.store = data

theorem PendingCall.call_take {pending taken : PendingCall Json} {arrival : Arrival Json}
    (done : pending.take arrival = some taken) : taken.call = pending.call := by
  cases arrival <;> (obtain ⟨-, same⟩ := Option.ite_none_left_eq_some.mp done; rw [← Option.some.inj same])

theorem arrives_cases {call : Nat} {arrival : Arrival Json}
    (fired : step keys state (.arrives call arrival) = some after) :
    ∃ pending taken, state.waiting.find? (fun pending => pending.call = call) = some pending ∧
      pending.take arrival = some taken ∧
      (taken.answers = none ∧
          after = { state with waiting := taken :: state.waiting.filter fun pending => pending.call ≠ call } ∨
        ∃ answers, taken.answers = some answers ∧
          after = { state with
            store := hydrated keys taken.pipelineId answers
            waiting := state.waiting.filter fun pending => pending.call ≠ call
            result := if call = state.last then some (hydrated keys taken.pipelineId answers) else state.result }) := by
  obtain ⟨pending, found, fired⟩ := Option.bind_eq_some_iff.mp fired
  obtain ⟨taken, takes, fired⟩ := Option.bind_eq_some_iff.mp fired
  refine ⟨pending, taken, found, takes, ?_⟩
  cases all : taken.answers with
  | none =>
    rw [all] at fired
    exact .inl ⟨rfl, (Option.some.inj fired).symm⟩
  | some answers =>
    rw [all] at fired
    exact .inr ⟨answers, rfl, (Option.some.inj fired).symm⟩

/-- Every timely answer keeps the store consistent. -/
theorem step_consistent (consistent : state.Consistent) (timely : state.Timely label)
    (fired : step keys state label = some after) : after.Consistent := by
  cases label with
  | hydrate pipelineId =>
    obtain rfl := Option.some.inj fired
    exact ⟨fun _ => ⟨_, List.mem_cons_self, rfl⟩, fun data none => absurd none (Option.not_mem_none data)⟩
  | reset =>
    obtain rfl := Option.some.inj fired
    exact ⟨fun none => absurd none (Option.some_ne_none _), fun data same => Option.some.inj same⟩
  | arrives call arrival =>
    obtain ⟨pending, taken, found, takes, ⟨-, rfl⟩ | ⟨answers, all, rfl⟩⟩ := arrives_cases fired
    · refine ⟨fun none => ?_, consistent.shows⟩
      obtain ⟨other, waits, isLast⟩ := consistent.waits none
      by_cases same : other.call = call
      · have here := of_decide_eq_true (@List.find?_some _ (fun other : PendingCall Json => decide (other.call = call)) _ _ found)
        exact ⟨taken, List.mem_cons_self, by rw [PendingCall.call_take takes, here, ← same, isLast]⟩
      · exact ⟨other, List.mem_cons_of_mem _ (List.mem_filter.mpr ⟨waits, decide_eq_true same⟩), isLast⟩
    · by_cases isLast : call = state.last
      · rw [if_pos isLast]
        exact ⟨fun none => absurd none (Option.some_ne_none _), fun data same => Option.some.inj same⟩
      · rw [if_neg isLast]
        -- the last call still waits, for an older one is complete
        have unfinished : state.result = none := by
          rcases timely with same | none | incomplete
          · exact absurd same isLast
          · exact none
          · have missing := incomplete pending found
            rw [takes, Option.bind_some, all] at missing
            cases missing
        refine ⟨fun _ => ?_, fun data same => ?_⟩
        · obtain ⟨other, waits, its⟩ := consistent.waits unfinished
          have differs : other.call ≠ call := fun same => isLast (same.symm.trans its)
          exact ⟨other, List.mem_filter.mpr ⟨waits, decide_eq_true differs⟩, its⟩
        · rw [unfinished] at same
          cases same

/-- In every run of calls, resets and answers in which no older call is completed after the last one, the store shows
the result of the last call once nothing is outstanding. -/
theorem showsLast_of_timely (reached : Runs.Reaches (step keys) Timely {} state) : state.ShowsLast := by
  have consistent : state.Consistent := by
    refine reached.invariant Consistent ⟨fun none => absurd none (Option.some_ne_none _), fun data same => Option.some.inj same⟩ ?_
    exact fun _ _ _ consistent timely fired => step_consistent consistent timely fired
  intro quiet
  cases found : state.result with
  | none =>
    obtain ⟨pending, waits, -⟩ := consistent.waits found
    rw [quiet] at waits
    cases waits
  | some data => rw [consistent.shows data found]

/-- The answers for a pipeline that has been deleted, in any order. -/
def goneAnswers (call : Nat) : List (LoadLabel Unit) :=
  [.arrives call (.pipeline (.err "not found" 404)), .arrives call (.stages (.err "not found" 404)),
    .arrives call (.transforms (.err "not found" 404)), .arrives call (.rules (.err "not found" 404)),
    .arrives call (.revisions (.err "not found" 404)), .arrives call (.current (.err "not found" 404))]

instance (state : Loads Json) (label : LoadLabel Json) : Decidable (state.Timely label) :=
  match label with
  | .arrives call arrival => decidable_of_iff (call = state.last ∨ state.result.isNone = true ∨
      ((state.waiting.find? fun pending => pending.call = call).all fun pending =>
        ((pending.take arrival).bind PendingCall.answers).isNone) = true) (by
      simp only [Timely, Option.isNone_iff_eq_none, Option.all_eq_true, Option.mem_def])
  | .hydrate _ => inferInstanceAs (Decidable True)
  | .reset => inferInstanceAs (Decidable True)

/-- After a reset, a call that is overtaken by a second one is complete before it, and the second is shown. -/
theorem showsLast_of_timely_overtaken : ∃ state : Loads Unit, state.waiting = [] ∧ state.calls = 3 ∧
    state.store.pipelineId = "q" ∧ state.ShowsLast := by
  obtain ⟨state, reached, tested⟩ := Runs.exists_reaches_of_exec (step noKeys) Timely {}
    (.reset :: .hydrate "p" :: .arrives 2 (.stages (.ok [])) :: .hydrate "q" ::
      ((goneAnswers 2).eraseIdx 1 ++ goneAnswers 3))
    (fun state => state.waiting.isEmpty && (decide (state.calls = 3) && decide (state.store.pipelineId = "q")))
    (by decide)
  obtain ⟨empty, rest⟩ := Bool.and_eq_true_iff.mp tested
  obtain ⟨three, shown⟩ := Bool.and_eq_true_iff.mp rest
  exact ⟨state, List.isEmpty_iff.mp empty, of_decide_eq_true three, of_decide_eq_true shown, showsLast_of_timely reached⟩

end Runs

/-- The store holds the result of the last call whatever the order is. -/
def AlwaysShowsLast (Json : Type) : Prop :=
  ∀ (keys : Keys Json) (state : Loads Json), Runs.Reachable (step keys) {} state → state.ShowsLast

/-- The answers of the older call come last, and the store shows its pipeline. -/
theorem older_call_overwrites : ¬ AlwaysShowsLast Unit := by
  intro claimed
  obtain ⟨state, reached, tested⟩ := Runs.exists_reaches_of_exec (step noKeys) (fun _ _ => True) {}
    (.hydrate "p" :: .hydrate "q" :: (goneAnswers 2 ++ goneAnswers 1))
    (fun state => state.waiting.isEmpty && (decide (state.store.pipelineId = "p") &&
      decide (state.result.map Data.pipelineId = some "q"))) (by decide)
  obtain ⟨empty, rest⟩ := Bool.and_eq_true_iff.mp tested
  obtain ⟨shown, asked⟩ := Bool.and_eq_true_iff.mp rest
  have result := of_decide_eq_true asked
  rw [claimed noKeys state reached (List.isEmpty_iff.mp empty), Option.map_some, of_decide_eq_true shown] at result
  exact absurd result (by decide)

end Loads

end Studio

end MqConnector
