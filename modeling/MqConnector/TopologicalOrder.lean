/-
This file is a small library on the topological order of the part of a directed graph
that is reached from one vertex: a search with a stack, then Kahn's algorithm on what
the search found.

A graph is a list of edges, and an edge may be there several times. The fuel of the
loops is never used up before they are done.
-/

import Mathlib.Data.Fintype.EquivFin

namespace Topological

variable {Vertex : Type} [DecidableEq Vertex]

/-! ### The search -/

section Search

variable (edges : List (Vertex × Vertex))

def successors (vertex : Vertex) : List Vertex :=
  (edges.filter fun edge => edge.1 = vertex).map Prod.snd

/-- The search: the top of the stack is taken, and what follows it is put on the stack. -/
def explore : Nat → List Vertex → List Vertex → List Vertex
  | 0, _, reached => reached
  | _ + 1, [], reached => reached
  | fuel + 1, vertex :: stack, reached =>
    if vertex ∈ reached then explore fuel stack reached
    else
      let next := (successors edges vertex).filter fun after => after ∉ reached ++ [vertex]
      explore fuel (next.reverse ++ stack) (reached ++ [vertex])

/-- The vertices that are reached from one. Every edge puts at most one vertex on the stack. -/
def reachedFrom (source : Vertex) : List Vertex :=
  explore edges (edges.length + 1) [source] []

/-- How many edges leave what was not reached yet. -/
def unexplored (reached : List Vertex) : Nat :=
  edges.countP fun edge => edge.1 ∉ reached

variable {edges}

theorem mem_successors {vertex after : Vertex} :
    after ∈ successors edges vertex ↔ (vertex, after) ∈ edges := by
  simp [successors]

theorem count_successors (vertex after : Vertex) :
    (successors edges vertex).count after = edges.count (vertex, after) := by
  induction edges with
  | nil => rfl
  | cons edge rest hypothesis =>
    obtain ⟨start, stop⟩ := edge
    rw [successors] at hypothesis ⊢
    by_cases same : start = vertex
    · rw [List.filter_cons_of_pos (by exact decide_eq_true same), List.map_cons, List.count_cons,
        hypothesis, List.count_cons, same]
      simp
    · rw [List.filter_cons_of_neg (by simpa using same), hypothesis, List.count_cons]
      simp [same]

theorem unexplored_append {reached : List Vertex} {vertex : Vertex} (unreached : vertex ∉ reached) :
    unexplored edges (reached ++ [vertex]) + (successors edges vertex).length = unexplored edges reached := by
  unfold unexplored successors
  rw [List.length_map, ← List.countP_eq_length_filter]
  induction edges with
  | nil => rfl
  | cons edge rest hypothesis =>
    rw [List.countP_cons, List.countP_cons, List.countP_cons, ← hypothesis]
    by_cases same : edge.1 = vertex
    · simp [same, unreached]
      omega
    · simp [same]
      omega

/-- The search keeps what it has reached, goes through the stack and ends closed under edges. -/
theorem explore_spec {fuel : Nat} {stack reached : List Vertex} (distinct : reached.Nodup)
    (enough : stack.length + unexplored edges reached ≤ fuel)
    (closed : ∀ vertex ∈ reached, ∀ after, (vertex, after) ∈ edges → after ∈ reached ∨ after ∈ stack) :
    (explore edges fuel stack reached).Nodup ∧
      reached ⊆ explore edges fuel stack reached ∧ stack ⊆ explore edges fuel stack reached ∧
      ∀ vertex ∈ explore edges fuel stack reached, ∀ after, (vertex, after) ∈ edges →
        after ∈ explore edges fuel stack reached := by
  induction fuel generalizing stack reached with
  | zero =>
    have empty : stack = [] := List.length_eq_zero_iff.mp (by omega)
    subst empty
    exact ⟨distinct, List.Subset.refl _, List.nil_subset _, fun vertex member after edge =>
      (closed vertex member after edge).resolve_right List.not_mem_nil⟩
  | succ fuel hypothesis =>
    cases stack with
    | nil =>
      exact ⟨distinct, List.Subset.refl _, List.nil_subset _, fun vertex member after edge =>
        (closed vertex member after edge).resolve_right List.not_mem_nil⟩
    | cons vertex stack =>
      rw [List.length_cons] at enough
      rw [explore]
      split
      · rename_i before
        obtain ⟨nodup, kept, taken, whole⟩ := @hypothesis stack reached distinct (by omega)
          fun other member after edge => by
            rcases closed other member after edge with there | waiting
            · exact Or.inl there
            · rcases List.mem_cons.mp waiting with rfl | later
              · exact Or.inl before
              · exact Or.inr later
        exact ⟨nodup, kept, List.cons_subset.mpr ⟨kept before, taken⟩, whole⟩
      · rename_i unreached
        have explored := @unexplored_append Vertex _ edges _ _ unreached
        have fewer := List.length_filter_le (fun after => decide (after ∉ reached ++ [vertex]))
          (successors edges vertex)
        have extended : (reached ++ [vertex]).Nodup :=
          List.concat_eq_append ▸ distinct.concat unreached
        have waits : ∀ other ∈ reached ++ [vertex], ∀ after, (other, after) ∈ edges →
            after ∈ reached ++ [vertex] ∨ after ∈ ((successors edges vertex).filter fun after =>
              after ∉ reached ++ [vertex]).reverse ++ stack := by
          intro other member after edge
          by_cases there : after ∈ reached ++ [vertex]
          · exact Or.inl there
          · refine Or.inr (List.mem_append.mpr ?_)
            rcases List.mem_append.mp member with old | new
            · rcases closed other old after edge with inside | waiting
              · exact absurd (List.mem_append_left _ inside) there
              · rcases List.mem_cons.mp waiting with rfl | later
                · exact absurd (List.mem_append_right _ (List.mem_singleton_self _)) there
                · exact Or.inr later
            · obtain rfl := List.mem_singleton.mp new
              exact Or.inl (List.mem_reverse.mpr (List.mem_filter.mpr
                ⟨mem_successors.mpr edge, decide_eq_true there⟩))
        obtain ⟨nodup, kept, taken, whole⟩ := hypothesis extended
          (by rw [List.length_append, List.length_reverse]; omega) waits
        exact ⟨nodup, fun other member => kept (List.mem_append_left _ member),
          List.cons_subset.mpr ⟨kept (List.mem_append_right _ (List.mem_singleton_self _)),
            fun other member => taken (List.mem_append_right _ member)⟩, whole⟩

theorem explore_sound {property : Vertex → Prop}
    (carried : ∀ vertex after, property vertex → (vertex, after) ∈ edges → property after) {fuel : Nat}
    {stack reached : List Vertex} (waiting : ∀ vertex ∈ stack, property vertex)
    (there : ∀ vertex ∈ reached, property vertex) :
    ∀ vertex ∈ explore edges fuel stack reached, property vertex := by
  induction fuel generalizing stack reached with
  | zero => exact there
  | succ fuel hypothesis =>
    cases stack with
    | nil => exact there
    | cons vertex stack =>
      obtain ⟨first, rest⟩ := List.forall_mem_cons.mp waiting
      rw [explore]
      split
      · exact hypothesis rest there
      · refine hypothesis (fun other member => ?_) (fun other member => ?_)
        · rcases List.mem_append.mp member with next | later
          · have edge := mem_successors.mp (List.mem_filter.mp (List.mem_reverse.mp next)).1
            exact carried vertex other first edge
          · exact rest other later
        · rcases List.mem_append.mp member with old | new
          · exact there other old
          · exact List.mem_singleton.mp new ▸ first

variable (edges)

/-- There is a path of edges. -/
def Reaches : Vertex → Vertex → Prop :=
  Relation.ReflTransGen fun vertex after => (vertex, after) ∈ edges

variable {edges}

theorem reachedFrom_spec (source : Vertex) :
    (reachedFrom edges source).Nodup ∧ source ∈ reachedFrom edges source ∧
      ∀ vertex ∈ reachedFrom edges source, ∀ after, (vertex, after) ∈ edges →
        after ∈ reachedFrom edges source := by
  have enough : [source].length + unexplored edges [] ≤ edges.length + 1 := by
    rw [List.length_singleton, Nat.add_comm]
    exact Nat.add_le_add_right List.countP_le_length 1
  obtain ⟨nodup, -, taken, whole⟩ := explore_spec List.nodup_nil enough
    fun vertex member => absurd member List.not_mem_nil
  exact ⟨nodup, taken (List.mem_singleton_self _), whole⟩

/-- What is reached is reachable. -/
theorem mem_reachedFrom {source vertex : Vertex} :
    vertex ∈ reachedFrom edges source ↔ Reaches edges source vertex := by
  constructor
  · refine @explore_sound Vertex _ edges (Reaches edges source) (fun _ _ path edge => path.tail edge) _ _ _
      (fun other member => ?_) (fun other member => absurd member List.not_mem_nil) vertex
    rw [List.mem_singleton.mp member]
    exact Relation.ReflTransGen.refl
  · intro path
    obtain ⟨-, start, whole⟩ := @reachedFrom_spec Vertex _ edges source
    induction path with
    | refl => exact start
    | tail _ edge hypothesis => exact whole _ hypothesis _ edge

end Search

/-! ### Kahn's algorithm -/

section Kahn

variable (edges : List (Vertex × Vertex)) (reached : List Vertex)

/-- The edges among what was reached that enter a vertex, those from some vertices left out. -/
def entering (taken : List Vertex) (vertex : Vertex) : Nat :=
  edges.countP fun edge => edge.1 ∈ reached ∧ edge.1 ∉ taken ∧ edge.2 = vertex

/-- The inner loop: each vertex an edge leads to has one edge fewer to wait for, and is queued when it
has none left. -/
def release : List Vertex → (Vertex → Int) × List Vertex → (Vertex → Int) × List Vertex
  | [], progress => progress
  | next :: rest, (degree, queue) =>
    if next ∉ reached then release rest (degree, queue)
    else
      let left := degree next - 1
      release rest (Function.update degree next left, if left = 0 then queue ++ [next] else queue)

/-- The outer loop. -/
def drain : Nat → (Vertex → Int) → List Vertex → List Vertex → List Vertex
  | 0, _, _, order => order
  | _ + 1, _, [], order => order
  | fuel + 1, degree, vertex :: queue, order =>
    let progress := release reached (successors edges vertex) (degree, queue)
    drain fuel progress.1 progress.2 (order ++ [vertex])

/-- Kahn's algorithm on what is reached from a vertex. Every round takes one vertex. -/
def drainFrom (source : Vertex) : List Vertex :=
  let reached := reachedFrom edges source
  let degree : Vertex → Int := fun vertex => entering edges reached [] vertex
  drain edges reached reached.length degree (reached.filter fun vertex => degree vertex = 0) []

/-- The topological order from a vertex; none if the vertex is not there or is on a way to a cycle. -/
def order (vertices : List Vertex) (source : Vertex) : Option (List Vertex) :=
  if source ∉ vertices then none
  else if (drainFrom edges source).length ≠ (reachedFrom edges source).length then none
  else some (drainFrom edges source)

/-- What holds between two rounds: what is in the order or in the queue are the vertices with no edge
left to wait for. -/
structure Draining (degree : Vertex → Int) (queue taken : List Vertex) : Prop where
  distinct : (taken ++ queue).Nodup
  inside : taken ++ queue ⊆ reached
  degrees : ∀ vertex ∈ reached, degree vertex = entering edges reached taken vertex
  ready : ∀ vertex ∈ reached, vertex ∈ taken ++ queue ↔ degree vertex = 0

variable {edges reached}

theorem release_spec {left : Vertex → Nat} {next taken queue : List Vertex} {degree : Vertex → Int}
    (distinct : (taken ++ queue).Nodup) (inside : taken ++ queue ⊆ reached)
    (degrees : ∀ vertex ∈ reached, degree vertex = left vertex + next.count vertex)
    (ready : ∀ vertex ∈ reached, vertex ∈ taken ++ queue ↔ degree vertex = 0) :
    let progress := release reached next (degree, queue)
    (taken ++ progress.2).Nodup ∧ taken ++ progress.2 ⊆ reached ∧
      (∀ vertex ∈ reached, progress.1 vertex = left vertex) ∧
      ∀ vertex ∈ reached, vertex ∈ taken ++ progress.2 ↔ progress.1 vertex = 0 := by
  induction next generalizing degree queue with
  | nil =>
    refine ⟨distinct, inside, fun vertex member => ?_, ready⟩
    have whole := degrees vertex member
    rwa [List.count_nil, Int.natCast_zero, Int.add_zero] at whole
  | cons first rest hypothesis =>
    rw [release]
    split
    · rename_i outside
      refine hypothesis distinct inside (fun vertex member => ?_) ready
      have different : first ≠ vertex := fun same => outside (same ▸ member)
      rw [degrees vertex member, List.count_cons_of_ne different]
    · rename_i there
      have there := not_not.mp there
      have positive : degree first = left first + rest.count first + 1 := by
        rw [degrees first there, List.count_cons_self]
        omega
      have waiting : first ∉ taken ++ queue := fun member => by
        have zero := (ready first there).mp member
        omega
      have others : ∀ vertex ∈ reached, Function.update degree first (degree first - 1) vertex =
          left vertex + rest.count vertex := by
        intro vertex member
        by_cases same : vertex = first
        · rw [same, Function.update_self]
          omega
        · rw [Function.update_of_ne same, degrees vertex member, List.count_cons_of_ne (Ne.symm same)]
      dsimp only
      split
      · rename_i last
        refine hypothesis ?_ ?_ others fun vertex member => ?_
        · rw [← List.append_assoc]
          exact List.concat_eq_append ▸ distinct.concat waiting
        · rw [← List.append_assoc]
          exact List.append_subset.mpr ⟨inside, List.cons_subset.mpr ⟨there, List.nil_subset _⟩⟩
        · rw [← List.append_assoc, List.mem_append, List.mem_singleton]
          by_cases same : vertex = first
          · rw [same, Function.update_self]
            exact iff_of_true (Or.inr rfl) last
          · rw [Function.update_of_ne same, or_iff_left same]
            exact ready vertex member
      · rename_i more
        refine hypothesis distinct inside others fun vertex member => ?_
        by_cases same : vertex = first
        · rw [same, Function.update_self]
          exact iff_of_false waiting more
        · rw [Function.update_of_ne same]
          exact ready vertex member

theorem entering_append {taken : List Vertex} {vertex : Vertex} (there : vertex ∈ reached)
    (waiting : vertex ∉ taken) (after : Vertex) :
    entering edges reached taken after =
      entering edges reached (taken ++ [vertex]) after + (successors edges vertex).count after := by
  rw [count_successors]
  unfold entering
  induction edges with
  | nil => rfl
  | cons edge rest hypothesis =>
    obtain ⟨start, stop⟩ := edge
    rw [List.countP_cons, List.countP_cons, List.count_cons, hypothesis]
    by_cases same : start = vertex
    · simp [same, there, waiting]
      omega
    · simp [same]
      omega

theorem Draining.next {degree : Vertex → Int} {vertex : Vertex} {queue taken : List Vertex}
    (draining : Draining edges reached degree (vertex :: queue) taken) :
    let progress := release reached (successors edges vertex) (degree, queue)
    Draining edges reached progress.1 progress.2 (taken ++ [vertex]) := by
  have rearranged : taken ++ vertex :: queue = (taken ++ [vertex]) ++ queue := by simp
  obtain ⟨distinct, inside, degrees, ready⟩ := draining
  rw [rearranged] at distinct inside ready
  have there : vertex ∈ reached :=
    inside (List.mem_append_left _ (List.mem_append_right _ (List.mem_singleton_self _)))
  have waiting : vertex ∉ taken := fun member =>
    (List.nodup_append.mp (List.nodup_append.mp distinct).1).2.2 vertex member vertex
      (List.mem_singleton_self _) rfl
  obtain ⟨nodup, within, fewer, queued⟩ := @release_spec Vertex _ reached
    (entering edges reached (taken ++ [vertex])) _ _ _ _ distinct inside
    (fun after member => by
      rw [degrees after member, entering_append there waiting]
      push_cast
      rfl) ready
  exact ⟨nodup, within, fewer, queued⟩

variable (edges reached) in
/-- Every edge among what was reached comes before its end. -/
def Ordered (taken : List Vertex) : Prop :=
  ∀ edge ∈ edges, edge.1 ∈ reached → edge.2 ∈ taken → taken.idxOf edge.1 < taken.idxOf edge.2

theorem Draining.ordered {degree : Vertex → Int} {vertex : Vertex} {queue taken : List Vertex}
    (draining : Draining edges reached degree (vertex :: queue) taken) (ordered : Ordered edges reached taken) :
    Ordered edges reached (taken ++ [vertex]) := by
  have queued : vertex ∈ taken ++ vertex :: queue := List.mem_append_right _ List.mem_cons_self
  have waiting : vertex ∉ taken := fun member =>
    (List.nodup_append.mp draining.distinct).2.2 vertex member vertex List.mem_cons_self rfl
  have zero := (draining.ready vertex (draining.inside queued)).mp queued
  rw [draining.degrees vertex (draining.inside queued)] at zero
  intro edge there inside member
  rcases List.mem_append.mp member with old | new
  · have before := ordered edge there inside old
    have taken := List.idxOf_lt_length_iff.mp (before.trans (List.idxOf_lt_length_iff.mpr old))
    rwa [List.idxOf_append_of_mem taken, List.idxOf_append_of_mem old]
  · obtain rfl := List.mem_singleton.mp new
    have before : edge.1 ∈ taken := by
      by_contra untaken
      have some : 0 < entering edges reached taken edge.2 :=
        List.countP_pos_iff.mpr ⟨edge, there, decide_eq_true ⟨inside, untaken, rfl⟩⟩
      omega
    rw [List.idxOf_append_of_mem before, List.idxOf_append_of_notMem waiting]
    exact Nat.lt_add_right _ (List.idxOf_lt_length_iff.mpr before)

/-- Draining keeps the order so far. -/
theorem drain_spec {fuel : Nat} {degree : Vertex → Int} {queue taken : List Vertex}
    (draining : Draining edges reached degree queue taken) (ordered : Ordered edges reached taken)
    (enough : reached.length ≤ fuel + taken.length) :
    ∃ last, Draining edges reached last [] (drain edges reached fuel degree queue taken) ∧
      Ordered edges reached (drain edges reached fuel degree queue taken) := by
  induction fuel generalizing degree queue taken with
  | zero =>
    have bounded : (taken ++ queue).length ≤ reached.length :=
      (List.subperm_of_subset draining.distinct draining.inside).length_le
    rw [List.length_append] at bounded
    have empty : queue = [] := List.length_eq_zero_iff.mp (by omega)
    subst empty
    exact ⟨degree, draining, ordered⟩
  | succ fuel hypothesis =>
    cases queue with
    | nil => exact ⟨degree, draining, ordered⟩
    | cons vertex queue =>
      refine hypothesis draining.next (draining.ordered ordered) ?_
      rw [List.length_append, List.length_singleton]
      omega

theorem exists_of_entering {taken : List Vertex} {vertex : Vertex}
    (some : entering edges reached taken vertex ≠ 0) :
    ∃ before ∈ reached, before ∉ taken ∧ (before, vertex) ∈ edges := by
  obtain ⟨edge, there, holds⟩ := List.countP_pos_iff.mp (Nat.pos_of_ne_zero some)
  obtain ⟨inside, untaken, stops⟩ := of_decide_eq_true holds
  exact ⟨edge.1, inside, untaken, stops ▸ there⟩

theorem Draining.mem_of_wellFounded {degree : Vertex → Int} {taken : List Vertex}
    (downward : WellFounded fun before vertex => before ∈ reached ∧ (before, vertex) ∈ edges)
    (draining : Draining edges reached degree [] taken) : ∀ vertex ∈ reached, vertex ∈ taken := by
  intro vertex
  -- a vertex that is not taken waits for one before it that is not taken either
  refine @WellFounded.induction _ _ downward (fun vertex => vertex ∈ reached → vertex ∈ taken) vertex ?_
  intro vertex hypothesis member
  by_contra untaken
  have waits : degree vertex ≠ 0 := fun zero => by
    have ready := (draining.ready vertex member).mpr zero
    rw [List.append_nil] at ready
    exact untaken ready
  rw [draining.degrees vertex member] at waits
  obtain ⟨before, there, left, edge⟩ := exists_of_entering fun zero => waits (by rw [zero]; rfl)
  exact left (hypothesis before ⟨there, edge⟩ there)

variable (edges) in
theorem drainFrom_spec (source : Vertex) :
    ∃ last, Draining edges (reachedFrom edges source) last [] (drainFrom edges source) ∧
      Ordered edges (reachedFrom edges source) (drainFrom edges source) := by
  have start : Draining edges (reachedFrom edges source)
      (fun vertex => entering edges (reachedFrom edges source) [] vertex)
      ((reachedFrom edges source).filter fun vertex =>
        (entering edges (reachedFrom edges source) [] vertex : Int) = 0) [] := by
    refine ⟨?_, ?_, fun _ _ => rfl, fun vertex there => ?_⟩
    · exact (reachedFrom_spec source).1.filter _
    · exact fun vertex among => (List.mem_filter.mp among).1
    · rw [List.nil_append, List.mem_filter]
      exact ⟨fun both => of_decide_eq_true both.2, fun zero => ⟨there, decide_eq_true zero⟩⟩
  exact drain_spec start (fun _ _ _ member => absurd member List.not_mem_nil) (Nat.le_refl _)

variable (edges) in
/-- A list has every vertex that is reached, once, and each edge between them comes before its end. -/
structure SortedFrom (source : Vertex) (sorted : List Vertex) : Prop where
  distinct : sorted.Nodup
  members : ∀ vertex, vertex ∈ sorted ↔ Reaches edges source vertex
  ascends : ∀ edge ∈ edges, Reaches edges source edge.1 → sorted.idxOf edge.1 < sorted.idxOf edge.2

variable (edges) in
def AcyclicFrom (source : Vertex) : Prop :=
  ∀ vertex, Reaches edges source vertex →
    ¬ Relation.TransGen (fun before after => (before, after) ∈ edges) vertex vertex

/-- An order that is found is sorted from the source. -/
theorem order_spec {vertices sorted : List Vertex} {source : Vertex}
    (found : order edges vertices source = some sorted) : SortedFrom edges source sorted := by
  obtain ⟨last, drained, ordered⟩ := drainFrom_spec edges source
  rw [order] at found
  split at found
  · cases found
  · split at found
    · cases found
    · rename_i same
      obtain rfl := Option.some.inj found
      have distinct := drained.distinct
      have within := drained.inside
      rw [List.append_nil] at distinct within
      have perm := (List.subperm_of_subset distinct within).perm_of_length_le (not_not.mp same).ge
      refine ⟨distinct, fun vertex => perm.mem_iff.trans mem_reachedFrom, fun edge there path => ?_⟩
      exact ordered edge there (mem_reachedFrom.mpr path) (perm.mem_iff.mpr (mem_reachedFrom.mpr (path.tail there)))

/-- What is reached without cycles is drained in order. -/
theorem order_of_wellFounded {vertices : List Vertex} {source : Vertex} (member : source ∈ vertices)
    (downward : WellFounded fun before vertex => before ∈ reachedFrom edges source ∧ (before, vertex) ∈ edges) :
    order edges vertices source = some (drainFrom edges source) := by
  obtain ⟨last, drained, -⟩ := drainFrom_spec edges source
  have bounded := (List.subperm_of_subset drained.distinct drained.inside).length_le
  rw [List.append_nil] at bounded
  have whole := (List.subperm_of_subset (reachedFrom_spec source).1 (drained.mem_of_wellFounded downward)).length_le
  rw [order, if_neg (not_not.mpr member), if_neg (not_not.mpr (Nat.le_antisymm bounded whole))]

/-- There is an order exactly if the vertex is there and what it reaches has no cycle. -/
theorem order_isSome_iff {vertices : List Vertex} {source : Vertex} :
    (order edges vertices source).isSome = true ↔ source ∈ vertices ∧ AcyclicFrom edges source := by
  constructor
  · intro some
    obtain ⟨sorted, found⟩ := Option.isSome_iff_exists.mp some
    refine ⟨?_, fun vertex path cycle => ?_⟩
    · by_contra absent
      rw [order, if_pos absent] at found
      cases found
    · have later (after : Vertex) (leads : Relation.TransGen (fun before after => (before, after) ∈ edges) vertex after) :
          sorted.idxOf vertex < sorted.idxOf after := by
        induction leads with
        | single edge => exact (order_spec found).ascends _ edge path
        | tail leads edge hypothesis =>
          exact hypothesis.trans ((order_spec found).ascends _ edge (path.trans leads.to_reflTransGen))
      exact absurd (later vertex cycle) (Nat.lt_irrefl _)
  · rintro ⟨member, acyclic⟩
    let Reached := { vertex // vertex ∈ reachedFrom edges source }
    let precedes (before vertex : Reached) : Prop :=
      Relation.TransGen (fun before after => (before, after) ∈ edges) before.1 vertex.1
    have : Finite Reached := inferInstanceAs (Finite { vertex // vertex ∈ reachedFrom edges source })
    have : IsTrans Reached precedes := ⟨fun _ _ _ first second => first.trans second⟩
    have : Std.Irrefl precedes := ⟨fun vertex => acyclic vertex.1 (mem_reachedFrom.mp vertex.2)⟩
    have below (vertex : Reached) :
        Acc (fun before vertex => before ∈ reachedFrom edges source ∧ (before, vertex) ∈ edges) vertex.1 := by
      have downward : WellFounded precedes := Finite.wellFounded_of_trans_of_irrefl precedes
      induction vertex using downward.induction with
      | _ vertex hypothesis =>
        exact Acc.intro vertex.1 fun before first =>
          hypothesis ⟨before, first.1⟩ (Relation.TransGen.single first.2)
    have downward : WellFounded fun before vertex => before ∈ reachedFrom edges source ∧ (before, vertex) ∈ edges :=
      ⟨fun vertex => Acc.intro vertex fun before first => below ⟨before, first.1⟩⟩
    rw [order_of_wellFounded member downward]
    rfl

/-- Ranked vertices are sorted. -/
theorem order_of_ranked {vertices : List Vertex} {source : Vertex} {rank : Vertex → Nat}
    (grows : ∀ edge ∈ edges, rank edge.1 < rank edge.2) (member : source ∈ vertices) :
    ∃ sorted, order edges vertices source = some sorted ∧
      ∀ vertex, vertex ∈ sorted ↔ Reaches edges source vertex := by
  have found := @order_of_wellFounded _ _ edges _ _ member
    (Subrelation.wf (fun both => grows _ both.2) (measure rank).wf)
  exact ⟨_, found, (order_spec found).members⟩

end Kahn

end Topological
