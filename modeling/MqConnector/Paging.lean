/-
This file develops the pages of a sorted query.

A query lists rows by falling key, and rows of one key in any order that may differ from query
to query. Each page is cut from the list of its own query. The pages together list every row
once, whatever the orders are, exactly when no two rows have one key.
-/

import Mathlib.Data.List.NodupEquivFin

namespace Paging

variable {Row Key : Type} [LinearOrder Key] {key : Row → Key} {rows listed other : List Row}

/-- A list of the rows by falling key. -/
def Arranged (key : Row → Key) (rows listed : List Row) : Prop :=
  listed.Perm rows ∧ listed.Pairwise fun former latter => key latter ≤ key former

theorem exists_arranged (key : Row → Key) (rows : List Row) : ∃ listed, Arranged key rows listed := by
  have total : Std.Total fun former latter : Row => key latter ≤ key former :=
    ⟨fun former latter => le_total (key latter) (key former)⟩
  have transitive : IsTrans Row fun former latter => key latter ≤ key former :=
    ⟨fun first second third forward further => further.trans forward⟩
  exact ⟨rows.insertionSort fun former latter => key latter ≤ key former, List.perm_insertionSort _ _,
    List.pairwise_insertionSort _ _⟩

theorem Arranged.unique (apart : ∀ first ∈ rows, ∀ second ∈ rows, key first = key second → first = second)
    (arranged : Arranged key rows listed) (also : Arranged key rows other) : listed = other := by
  refine (arranged.1.trans also.1.symm).eq_of_pairwise ?_ arranged.2 also.2
  intro first second firstMember secondMember falls rises
  exact apart first (arranged.1.mem_iff.mp firstMember) second (also.1.mem_iff.mp secondMember) (le_antisymm rises falls)

/-! ### The rows in front -/

/-- At most this many rows, and as many as there are, of which none is older than one that is left out. -/
structure Newest (key : Row → Key) (bound : Nat) (rows chosen : List Row) : Prop where
  subperm : chosen.Subperm rows
  length : chosen.length = min bound rows.length
  newest : ∀ row ∈ rows, row ∉ chosen → ∀ taken ∈ chosen, key row ≤ key taken

theorem Arranged.newest (arranged : Arranged key rows listed) (bound : Nat) :
    Newest key bound rows (listed.take bound) where
  subperm := (List.take_sublist bound listed).subperm.trans arranged.1.subperm
  length := by rw [List.length_take, arranged.1.length_eq]
  newest row member left taken among := by
    have split := arranged.2
    rw [← List.take_append_drop bound listed, List.pairwise_append] at split
    have here := arranged.1.mem_iff.mpr member
    rw [← List.take_append_drop bound listed, List.mem_append] at here
    exact split.2.2 taken among row (here.resolve_left left)

/-! ### Pages -/

def page (listed : List Row) (size index : Nat) : List Row :=
  (listed.drop (index * size)).take size

theorem flatten_pages (listed : List Row) (size count : Nat) :
    ((List.range count).map (page listed size)).flatten = listed.take (count * size) := by
  induction count with
  | zero => simp
  | succ count hypothesis =>
    rw [List.range_succ, List.map_append, List.flatten_append, hypothesis, List.map_singleton,
      List.flatten_singleton, page, Nat.succ_mul, ← List.take_add]

theorem mem_page_one {row : Row} {index : Nat} : row ∈ page listed 1 index ↔ listed[index]? = some row := by
  rw [page, Nat.mul_one, List.take_one, List.head?_drop, Option.mem_toList]

/-- Every page is one of a list of the rows. -/
def Pages (key : Row → Key) (rows : List Row) (size : Nat) (pages : Nat → List Row) : Prop :=
  ∀ index, ∃ listed, Arranged key rows listed ∧ pages index = page listed size index

theorem Pages.flatten_perm (apart : ∀ first ∈ rows, ∀ second ∈ rows, key first = key second → first = second)
    {size : Nat} {pages : Nat → List Row} (paged : Pages key rows size pages) {count : Nat}
    (enough : rows.length ≤ count * size) : ((List.range count).map pages).flatten.Perm rows := by
  obtain ⟨listed, arranged⟩ := exists_arranged key rows
  have same : pages = page listed size := by
    funext index
    obtain ⟨other, also, cut⟩ := paged index
    rw [cut, also.unique apart arranged]
  rw [same, flatten_pages, List.take_of_length_le (by rw [arranged.1.length_eq]; exact enough)]
  exact arranged.1

theorem Arranged.swap [DecidableEq Row] (nodup : rows.Nodup) (arranged : Arranged key rows listed)
    {first second : Row}
    (firstMember : first ∈ rows) (secondMember : second ∈ rows) (same : key first = key second) :
    Arranged key rows (listed.map (Equiv.swap first second)) := by
  have kept (row : Row) : key (Equiv.swap first second row) = key row := by
    rw [Equiv.swap_apply_def]
    split
    · subst_vars
      exact same.symm
    split
    · subst_vars
      exact same
    · rfl
  refine ⟨?_, ?_⟩
  · have injective : (listed.map (Equiv.swap first second)).Nodup :=
      (arranged.1.nodup_iff.mpr nodup).map (Equiv.swap first second).injective
    rw [List.perm_ext_iff_of_nodup injective nodup]
    intro row
    rw [List.mem_map_of_involutive fun row => Equiv.swap_apply_self first second row, arranged.1.mem_iff,
      Equiv.swap_apply_def]
    split
    · subst_vars
      exact iff_of_true secondMember firstMember
    split
    · subst_vars
      exact iff_of_true firstMember secondMember
    · rfl
  · rw [List.pairwise_map]
    exact arranged.2.imp fun falls => by rwa [kept, kept]

theorem pages_perm_iff (nodup : rows.Nodup) {bound : Nat} (positive : 1 ≤ bound) :
    (∀ size, 1 ≤ size → size ≤ bound → ∀ pages, Pages key rows size pages →
      ∀ count, rows.length ≤ count * size → ((List.range count).map pages).flatten.Perm rows) ↔
    ∀ first ∈ rows, ∀ second ∈ rows, key first = key second → first = second := by
  classical
  constructor
  · intro complete first firstMember second secondMember same
    by_contra differ
    obtain ⟨listed, arranged⟩ := exists_arranged key rows
    have distinct : listed.Nodup := arranged.1.nodup_iff.mpr nodup
    obtain ⟨place, inside, atPlace⟩ := List.getElem_of_mem (arranged.1.mem_iff.mpr secondMember)
    -- the page of the second row comes from the list in which the two rows are exchanged
    let pages (index : Nat) : List Row :=
      if index = place then page (listed.map (Equiv.swap first second)) 1 index else page listed 1 index
    have paged : Pages key rows 1 pages := by
      intro index
      by_cases here : index = place
      · exact ⟨_, arranged.swap nodup firstMember secondMember same, if_pos here⟩
      · exact ⟨listed, arranged, if_neg here⟩
    have all := complete 1 le_rfl positive pages paged rows.length (by omega)
    obtain ⟨cut, cutMember, among⟩ := List.mem_flatten.mp (all.mem_iff.mpr secondMember)
    obtain ⟨index, -, rfl⟩ := List.mem_map.mp cutMember
    by_cases here : index = place
    · have cut : pages index = page (listed.map (Equiv.swap first second)) 1 index := if_pos here
      rw [cut, mem_page_one, List.getElem?_map, here, List.getElem?_eq_getElem inside, atPlace, Option.map_some,
        Equiv.swap_apply_right] at among
      exact differ (Option.some.inj among)
    · have cut : pages index = page listed 1 index := if_neg here
      rw [cut, mem_page_one] at among
      obtain ⟨bound, atIndex⟩ := List.getElem?_eq_some_iff.mp among
      exact here (distinct.getElem_inj_iff.mp (atIndex.trans atPlace.symm))
  · intro apart size _ _ pages paged count enough
    exact paged.flatten_perm apart enough

end Paging
