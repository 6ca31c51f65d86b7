/-
This file models the filters over the dead letters: `ListFiltered`, `IDsByFilter`,
`DeleteByFilter` and the bulk actions that call them.

An error text is spliced into a LIKE pattern, where `%` and `_` are wildcards. A bound is
handed to the database as the text of its `String` method, which begins with the wall clock
of its zone, and the stored texts are those of UTC.

`LIKE` is that of SQLite; on Postgres a backslash in the pattern escapes what follows it,
which is left out. The number of a page is not bounded as the `int` of its offset is.
-/

import Mathlib.Data.List.Infix
import MqConnector.Memberships
import MqConnector.Paging

namespace MqConnector

open Paging

/-! ### Filters -/

/-- A `time.Time`: its instant and the distance of its zone from UTC, in nanoseconds. -/
structure ZonedTime where
  instant : Int
  offset : Int
  deriving DecidableEq

/-- The instant at which a clock in UTC shows what the clock of the zone shows. -/
def ZonedTime.wall (time : ZonedTime) : Int :=
  time.instant + time.offset

structure DLQFilter where
  pipelineID : String := ""
  error : String := ""
  since : Option ZonedTime := none
  until_ : Option ZonedTime := none
  deriving DecidableEq

/-- The columns of a dead letter that the filters read. A missing pipeline is the empty id. -/
structure FilteredRow where
  id : String
  tenantID : String
  pipelineID : String
  errorReason : String
  createdAt : Int
  deriving DecidableEq

structure DlqTable where
  rows : List FilteredRow
  idsNodup : (rows.map FilteredRow.id).Nodup

/-- `LIKE` of SQLite, on lowered texts: `%` stands for any text and `_` for one character. -/
def like : List Char → List Char → Bool
  | [], text => text.isEmpty
  | '%' :: pattern, text => text.tails.any (like pattern)
  | '_' :: pattern, text =>
    match text with
    | [] => false
    | _ :: rest => like pattern rest
  | character :: pattern, text =>
    match text with
    | [] => false
    | other :: rest => character = other && like pattern rest

/-- `LOWER`, on characters. -/
def lowered (text : String) : List Char :=
  (Memberships.sqlLower text).toList

namespace DLQFilter

variable (filter : DLQFilter)

/-- `created_at >= ?`: the texts are compared. Where they show one clock, that of UTC comes before the others. -/
def notBefore (createdAt : Int) : Bool :=
  filter.since.all fun since => since.wall < createdAt || since.wall = createdAt && since.offset = 0

/-- `created_at < ?`. -/
def before (createdAt : Int) : Bool :=
  filter.until_.all fun bound => createdAt < bound.wall || bound.wall = createdAt && bound.offset ≠ 0

/-- The WHERE clause of `ListFiltered` and `IDsByFilter`. -/
def selects (tenantID : String) (row : FilteredRow) : Bool :=
  row.tenantID = tenantID && (filter.pipelineID = "" || row.pipelineID = filter.pipelineID) &&
    (filter.error = "" || like (lowered ("%" ++ filter.error ++ "%")) (lowered row.errorReason)) &&
    filter.notBefore row.createdAt && filter.before row.createdAt

/-- What a filter says of a row: its pipeline, the error text literally, up to the case of ASCII letters, and the
instants of the half-open interval. -/
def Says (tenantID : String) (row : FilteredRow) : Prop :=
  row.tenantID = tenantID ∧ (filter.pipelineID ≠ "" → row.pipelineID = filter.pipelineID) ∧
    lowered filter.error <:+: lowered row.errorReason ∧
    (∀ since ∈ filter.since, since.instant ≤ row.createdAt) ∧ ∀ bound ∈ filter.until_, row.createdAt < bound.instant

instance (tenantID : String) (row : FilteredRow) : Decidable (filter.Says tenantID row) :=
  inferInstanceAs (Decidable (_ ∧ _ ∧ _ ∧ (∀ since ∈ filter.since, _) ∧ ∀ bound ∈ filter.until_, _))

end DLQFilter

/-! ### Queries and actions -/

section Actions

variable (table : DlqTable) (tenantID : String) (filter : DLQFilter)

def selected : List FilteredRow :=
  table.rows.filter (filter.selects tenantID)

/-- The page size that `ListFiltered` works with. -/
def pageSize (perPage : Int) : Nat :=
  if perPage < 1 ∨ 200 < perPage then 20 else perPage.toNat

/-- The answers of `ListFiltered`: the rows of a page, and the total. -/
def ListsFiltered (pageNumber perPage : Int) (answer : List FilteredRow × Nat) : Prop :=
  answer.2 = (selected table tenantID filter).length ∧
    ∃ listed, Arranged FilteredRow.createdAt (selected table tenantID filter) listed ∧
      answer.1 = page listed (pageSize perPage) ((if pageNumber < 1 then 1 else pageNumber).toNat - 1)

def capOr (default maxRows : Int) : Nat :=
  (if maxRows ≤ 0 then default else maxRows).toNat

/-- The answers of `IDsByFilter`, with the cap that it is given or 1000. -/
def ListsIDs (maxRows : Int) (ids : List String) : Prop :=
  ∃ listed, Arranged FilteredRow.createdAt (selected table tenantID filter) listed ∧
    ids = (listed.take (capOr 1000 maxRows)).map FilteredRow.id

/-- The ids that `BulkRetry` retries: those of `IDsByFilter`, with the cap 100 if it is given none. -/
def BulkRetries (maxRows : Int) (ids : List String) : Prop :=
  ListsIDs table tenantID filter (if maxRows ≤ 0 then 100 else maxRows) ids

/-- `deleteByIDs`: one statement with a parameter for the tenant and one for each id, which fails when the database
takes fewer. -/
def deleteByIDs (parameters : Nat) (ids : List String) : Option (List FilteredRow) :=
  if parameters < ids.length + 1 then none
  else some (table.rows.filter fun row => ¬ (row.tenantID = tenantID ∧ row.id ∈ ids))

/-- The rows that `BulkDelete` leaves, or none when it fails; `DeleteByFilter` deletes the ids of `IDsByFilter`. -/
def BulkDeletes (parameters : Nat) (maxRows : Int) (left : Option (List FilteredRow)) : Prop :=
  ∃ ids, ListsIDs table tenantID filter (if maxRows ≤ 0 then 1000 else maxRows) ids ∧
    left = if ids = [] then some table.rows else deleteByIDs table tenantID parameters ids

end Actions

/-! ### Patterns -/

theorem like_any (pattern text : List Char) : like ('%' :: pattern) text = text.tails.any (like pattern) := by
  rw [like]

theorem like_of_isPrefix (pattern rest : List Char) : like (pattern ++ ['%']) (pattern ++ rest) = true := by
  induction pattern with
  | nil =>
    rw [List.nil_append, List.nil_append, like_any, List.any_eq_true]
    exact ⟨[], (List.mem_tails _ _).mpr List.nil_suffix, rfl⟩
  | cons character pattern hypothesis =>
    rw [List.cons_append, List.cons_append, like.eq_def]
    split
    · contradiction
    · rename_i same
      obtain ⟨rfl, rfl⟩ := List.cons.inj same
      rw [List.any_eq_true]
      exact ⟨pattern ++ rest, (List.mem_tails _ _).mpr (List.suffix_cons _ _), hypothesis⟩
    · rename_i same
      obtain ⟨rfl, rfl⟩ := List.cons.inj same
      exact hypothesis
    · rename_i same
      obtain ⟨rfl, rfl⟩ := List.cons.inj same
      simp [hypothesis]

theorem isPrefix_of_like {pattern text : List Char}
    (plain : ∀ character ∈ pattern, character ≠ '%' ∧ character ≠ '_')
    (matched : like (pattern ++ ['%']) text = true) : pattern <+: text := by
  induction pattern generalizing text with
  | nil => exact List.nil_prefix
  | cons character pattern hypothesis =>
    obtain ⟨here, further⟩ := List.forall_mem_cons.mp plain
    rw [List.cons_append, like.eq_def] at matched
    split at matched
    · contradiction
    · rename_i same
      exact absurd (List.cons.inj same).1 here.1
    · rename_i same
      exact absurd (List.cons.inj same).1 here.2
    · rename_i same
      obtain ⟨rfl, rfl⟩ := List.cons.inj same
      split at matched
      · contradiction
      · obtain ⟨equal, below⟩ := Bool.and_eq_true_iff.mp matched
        rw [of_decide_eq_true equal]
        exact List.cons_prefix_cons.mpr ⟨rfl, hypothesis further below⟩

theorem lowered_pattern (text : String) : lowered ("%" ++ text ++ "%") = '%' :: (lowered text ++ ['%']) := by
  simp [lowered, Memberships.sqlLower]

theorem like_of_inside {text : String} {line : List Char} (inside : lowered text <:+: line) :
    like (lowered ("%" ++ text ++ "%")) line = true := by
  obtain ⟨before, after, rfl⟩ := inside
  rw [lowered_pattern, like_any, List.any_eq_true]
  refine ⟨lowered text ++ after, ?_, like_of_isPrefix _ _⟩
  rw [List.mem_tails, List.append_assoc]
  exact List.suffix_append _ _

theorem inside_of_like {text : String} (plain : ∀ character ∈ lowered text, character ≠ '%' ∧ character ≠ '_')
    {line : List Char} (matched : like (lowered ("%" ++ text ++ "%")) line = true) : lowered text <:+: line := by
  rw [lowered_pattern, like_any, List.any_eq_true] at matched
  obtain ⟨rest, ends, matched⟩ := matched
  exact (isPrefix_of_like plain matched).isInfix.trans ((List.mem_tails _ _).mp ends).isInfix

/-- A filter without wildcards whose bounds are in UTC. -/
structure DLQFilter.Plain (filter : DLQFilter) : Prop where
  text : ∀ character ∈ lowered filter.error, character ≠ '%' ∧ character ≠ '_'
  since : ∀ since ∈ filter.since, since.offset = 0
  until_ : ∀ bound ∈ filter.until_, bound.offset = 0

section Plain

variable {filter : DLQFilter} (plain : filter.Plain)

include plain

theorem DLQFilter.Plain.notBefore_iff (createdAt : Int) :
    filter.notBefore createdAt = true ↔ ∀ since ∈ filter.since, since.instant ≤ createdAt := by
  have utc := plain.since
  rw [DLQFilter.notBefore]
  cases given : filter.since with
  | none => simp
  | some since =>
    have offset := utc since given
    simp [ZonedTime.wall, offset, le_iff_lt_or_eq]

theorem DLQFilter.Plain.before_iff (createdAt : Int) :
    filter.before createdAt = true ↔ ∀ bound ∈ filter.until_, createdAt < bound.instant := by
  have utc := plain.until_
  rw [DLQFilter.before]
  cases given : filter.until_ with
  | none => simp
  | some bound =>
    have offset := utc bound given
    simp [ZonedTime.wall, offset]

theorem DLQFilter.Plain.text_iff (line : List Char) :
    (filter.error = "" ∨ like (lowered ("%" ++ filter.error ++ "%")) line = true) ↔ lowered filter.error <:+: line := by
  constructor
  · rintro (empty | matched)
    · rw [empty]
      exact List.nil_infix
    · exact inside_of_like plain.text matched
  · exact fun inside => .inr (like_of_inside inside)

/-- A plain filter selects what it says. -/
theorem DLQFilter.Plain.selects_iff (tenantID : String) (row : FilteredRow) :
    filter.selects tenantID row = true ↔ filter.Says tenantID row := by
  rw [DLQFilter.selects, DLQFilter.Says, ← plain.notBefore_iff, ← plain.before_iff, ← plain.text_iff]
  simp only [Bool.and_eq_true, Bool.or_eq_true, decide_eq_true_eq, or_iff_not_imp_left, and_assoc, ne_eq]

end Plain

/-! ### What filters act on -/

section Exact

variable (table : DlqTable) (tenantID : String) (filter : DLQFilter) (parameters : Nat)

/-- The rows that a filter says. -/
def said : List FilteredRow :=
  table.rows.filter fun row => filter.Says tenantID row

/-- The list and the bulk actions of a filter act on the rows that it says: the total counts them, the pages list each
of them once whatever the order of rows of one instant is, and a capped action takes the newest. -/
structure ActsExactly : Prop where
  total : ∀ pageNumber perPage answer, ListsFiltered table tenantID filter pageNumber perPage answer →
    answer.2 = (said table tenantID filter).length
  pages : ∀ perPage (pages : Nat → List FilteredRow × Nat),
    (∀ index : Nat, ListsFiltered table tenantID filter (index + 1) perPage (pages index)) →
    ∀ count, (said table tenantID filter).length ≤ count * pageSize perPage →
      ((List.range count).map fun index => (pages index).1).flatten.Perm (said table tenantID filter)
  ids : ∀ maxRows ids, ListsIDs table tenantID filter maxRows ids →
    ∃ chosen, Newest FilteredRow.createdAt (capOr 1000 maxRows) (said table tenantID filter) chosen ∧
      ids = chosen.map FilteredRow.id
  retries : ∀ maxRows ids, BulkRetries table tenantID filter maxRows ids →
    ∃ chosen, Newest FilteredRow.createdAt (capOr 100 maxRows) (said table tenantID filter) chosen ∧
      ids = chosen.map FilteredRow.id
  deletes : ∀ maxRows left, BulkDeletes table tenantID filter parameters maxRows left →
    ∃ chosen, Newest FilteredRow.createdAt (capOr 1000 maxRows) (said table tenantID filter) chosen ∧
      left = some (table.rows.filter fun row => row ∉ chosen)

variable {table tenantID filter parameters}

theorem selected_eq_said
    (agree : ∀ row ∈ table.rows, filter.selects tenantID row = true ↔ filter.Says tenantID row) :
    selected table tenantID filter = said table tenantID filter := by
  refine List.filter_congr fun row member => ?_
  rw [Bool.eq_iff_iff, decide_eq_true_iff]
  exact agree row member

theorem nodup_said : (said table tenantID filter).Nodup :=
  (List.Nodup.of_map _ table.idsNodup).filter _

theorem capOr_capOr (default other maxRows : Int) (positive : 0 < other) :
    capOr default (if maxRows ≤ 0 then other else maxRows) = capOr other maxRows := by
  rw [capOr, capOr]
  split
  · rw [if_neg (by omega)]
  · rfl

theorem pageSize_of_le {size : Nat} (positive : 1 ≤ size) (small : size ≤ 200) : pageSize size = size := by
  rw [pageSize, if_neg (by omega), Int.toNat_natCast]

theorem listsFiltered_pages {perPage : Int} {pages : Nat → List FilteredRow × Nat} :
    (∀ index : Nat, ListsFiltered table tenantID filter (index + 1) perPage (pages index)) ↔
      (∀ index, (pages index).2 = (selected table tenantID filter).length) ∧
        Pages FilteredRow.createdAt (selected table tenantID filter) (pageSize perPage) fun index => (pages index).1 := by
  have first (index : Nat) : (if (index + 1 : Int) < 1 then 1 else (index + 1 : Int)).toNat - 1 = index := by
    rw [if_neg (by omega)]
    omega
  simp only [ListsFiltered, first, forall_and, Pages]

theorem deleteByIDs_chosen {chosen : List FilteredRow} (subperm : chosen.Subperm (said table tenantID filter))
    (few : chosen.length + 1 ≤ parameters) :
    deleteByIDs table tenantID parameters (chosen.map FilteredRow.id) =
      some (table.rows.filter fun row => row ∉ chosen) := by
  rw [deleteByIDs, List.length_map, if_neg (by omega)]
  refine congrArg some (List.filter_congr fun row member => decide_eq_decide.mpr (not_congr ⟨?_, fun among => ?_⟩))
  · rintro ⟨-, named⟩
    obtain ⟨other, among, same⟩ := List.mem_map.mp named
    have otherMember := (List.mem_filter.mp (subperm.subset among)).1
    rwa [List.inj_on_of_nodup_map table.idsNodup member otherMember same.symm]
  · have fits : filter.Says tenantID row := of_decide_eq_true (List.mem_filter.mp (subperm.subset among)).2
    exact ⟨fits.1, List.mem_map_of_mem among⟩

section Sufficient

variable (agree : ∀ row ∈ table.rows, filter.selects tenantID row = true ↔ filter.Says tenantID row)

include agree

theorem newest_of_listsIDs {maxRows : Int} {ids : List String}
    (lists : ListsIDs table tenantID filter maxRows ids) :
    ∃ chosen, Newest FilteredRow.createdAt (capOr 1000 maxRows) (said table tenantID filter) chosen ∧
      ids = chosen.map FilteredRow.id := by
  obtain ⟨listed, arranged, rfl⟩ := lists
  rw [selected_eq_said agree] at arranged
  exact ⟨_, arranged.newest _, rfl⟩

/-- Rows of different instants, few enough for one statement, are acted on exactly. -/
theorem actsExactly_of_agree
    (apart : ∀ first ∈ said table tenantID filter, ∀ second ∈ said table tenantID filter,
      first.createdAt = second.createdAt → first = second)
    (few : (said table tenantID filter).length ≤ parameters - 1) : ActsExactly table tenantID filter parameters where
  total pageNumber perPage answer lists := by rw [lists.1, selected_eq_said agree]
  pages perPage pages lists count enough := by
    have paged := (listsFiltered_pages.mp lists).2
    rw [selected_eq_said agree] at paged
    exact paged.flatten_perm apart enough
  ids maxRows ids lists := newest_of_listsIDs agree lists
  retries maxRows ids lists := by
    obtain ⟨chosen, newest, same⟩ := newest_of_listsIDs agree lists
    rw [capOr_capOr 1000 100 maxRows (by decide)] at newest
    exact ⟨chosen, newest, same⟩
  deletes maxRows left deletes := by
    obtain ⟨ids, lists, rfl⟩ := deletes
    obtain ⟨chosen, newest, rfl⟩ := newest_of_listsIDs agree lists
    rw [capOr_capOr 1000 1000 maxRows (by decide)] at newest
    refine ⟨chosen, newest, ?_⟩
    split
    case isTrue none =>
      rw [List.map_eq_nil_iff] at none
      simp [none]
    case isFalse some =>
      have taken := newest.subperm.length_le
      have nonempty := List.length_pos_iff.mpr fun none => some (List.map_eq_nil_iff.mpr none)
      exact deleteByIDs_chosen newest.subperm (by omega)

end Sufficient

section Necessary

variable (exact : ActsExactly table tenantID filter parameters)

include exact

theorem ActsExactly.agree :
    ∀ row ∈ table.rows, filter.selects tenantID row = true ↔ filter.Says tenantID row := by
  obtain ⟨listed, arranged⟩ := exists_arranged FilteredRow.createdAt (selected table tenantID filter)
  have all := exact.pages 20 (fun index => (page listed 20 index, (selected table tenantID filter).length))
    (listsFiltered_pages.mpr ⟨fun _ => rfl, fun _ => ⟨listed, arranged, rfl⟩⟩)
    (listed.length + (said table tenantID filter).length) (by
      have size : pageSize 20 = 20 := rfl
      rw [size]
      omega)
  rw [flatten_pages, List.take_of_length_le (by omega)] at all
  intro row member
  have same : row ∈ selected table tenantID filter ↔ row ∈ said table tenantID filter :=
    (arranged.1.symm.trans all).mem_iff
  rw [selected, said, List.mem_filter, List.mem_filter, and_iff_right member, and_iff_right member,
    decide_eq_true_iff] at same
  exact same

theorem ActsExactly.apart : ∀ first ∈ said table tenantID filter, ∀ second ∈ said table tenantID filter,
    first.createdAt = second.createdAt → first = second := by
  have bound : 1 ≤ 200 := by decide
  refine (pages_perm_iff nodup_said bound).mp fun size positive small pages paged count enough => ?_
  have lists (index : Nat) : ListsFiltered table tenantID filter (index + 1) size
      (pages index, (selected table tenantID filter).length) := by
    refine @listsFiltered_pages table tenantID filter size
      (fun index => (pages index, (selected table tenantID filter).length)) |>.mpr ⟨fun _ => rfl, ?_⟩ index
    rwa [selected_eq_said exact.agree, pageSize_of_le positive small]
  exact exact.pages size _ lists count (by rwa [pageSize_of_le positive small])

theorem ActsExactly.few : (said table tenantID filter).length ≤ parameters - 1 := by
  obtain ⟨listed, arranged⟩ := exists_arranged FilteredRow.createdAt (said table tenantID filter)
  have long := arranged.1.length_eq
  by_contra many
  have lists : ListsIDs table tenantID filter (listed.length : Int) (listed.map FilteredRow.id) := by
    refine ⟨listed, selected_eq_said exact.agree ▸ arranged, ?_⟩
    rw [capOr, if_neg (by omega), Int.toNat_natCast, List.take_length]
  have fails : BulkDeletes table tenantID filter parameters listed.length none := by
    refine ⟨_, by rwa [if_neg (by omega)], ?_⟩
    have some_ : listed.map FilteredRow.id ≠ [] := by
      intro none
      rw [List.map_eq_nil_iff.mp none] at long
      exact many (by simp [← long])
    rw [if_neg some_, deleteByIDs, List.length_map, if_pos (by omega)]
  obtain ⟨chosen, -, left⟩ := exact.deletes _ _ fails
  cases left

end Necessary

/-- The list and the bulk actions act on the rows that a filter says exactly when it selects these rows, no two of
them are of one instant and a statement takes a parameter for each; a filter without wildcards whose bounds are in
UTC selects these rows. -/
theorem dlq_filters_exact_iff (table : DlqTable) (tenantID : String) (filter : DLQFilter) (parameters : Nat) :
    (ActsExactly table tenantID filter parameters ↔
      (∀ row ∈ table.rows, filter.selects tenantID row = true ↔ filter.Says tenantID row) ∧
      (∀ first ∈ said table tenantID filter, ∀ second ∈ said table tenantID filter,
        first.createdAt = second.createdAt → first = second) ∧
      (said table tenantID filter).length ≤ parameters - 1) ∧
    (filter.Plain → ∀ row, filter.selects tenantID row = true ↔ filter.Says tenantID row) :=
  ⟨⟨fun exact => ⟨exact.agree, exact.apart, exact.few⟩, fun ⟨agree, apart, few⟩ => actsExactly_of_agree agree apart few⟩,
    fun plain row => plain.selects_iff tenantID row⟩

end Exact

/-! ### A plain filter -/

def hour : Int := 3600 * 1000000000

/-- Two dead letters of one instant, and one of an hour later. -/
def threeLetters : DlqTable where
  rows := [⟨"a", "acme", "orders", "quota at 100%", 0⟩, ⟨"b", "acme", "orders", "100 retries", 0⟩,
    ⟨"c", "acme", "orders", "quota at 90%", hour⟩]
  idsNodup := by decide

/-- The text `quota` before two hours, in UTC, selects two rows, and the list and the actions act on these. -/
theorem dlq_filters_exact_quota :
    (said threeLetters "acme" { error := "quota", until_ := some ⟨2 * hour, 0⟩ }).map FilteredRow.id = ["a", "c"] ∧
      ActsExactly threeLetters "acme" { error := "quota", until_ := some ⟨2 * hour, 0⟩ } 32766 := by
  have plain : DLQFilter.Plain { error := "quota", until_ := some ⟨2 * hour, 0⟩ } :=
    { text := by
        rw [show lowered "quota" = ['q', 'u', 'o', 't', 'a'] by decide]
        simp
      since := fun _ given => absurd given (Option.not_mem_none _)
      until_ := fun bound given => by rw [← Option.some.inj given] }
  obtain ⟨exact_iff, selects⟩ :=
    dlq_filters_exact_iff threeLetters "acme" { error := "quota", until_ := some ⟨2 * hour, 0⟩ } 32766
  exact ⟨by decide, exact_iff.mpr ⟨fun row _ => selects plain row, by decide, by decide⟩⟩

/-! ### A wildcard, a zone and a tie -/

/-- The text `0%` selects a row that does not have it; a bound of an hour ago three hours east of UTC misses the
newest row; and two rows of one instant may come twice or not at all. -/
theorem dlq_filters_miss :
    ¬ ActsExactly threeLetters "acme" { error := "0%" } 32766 ∧
    ¬ ActsExactly threeLetters "acme" { since := some ⟨hour, 3 * hour⟩ } 32766 ∧
    ¬ ActsExactly threeLetters "acme" {} 32766 := by
  refine ⟨fun exact => ?_, fun exact => ?_, fun exact => ?_⟩
  · have agree := exact.agree ⟨"b", "acme", "orders", "100 retries", 0⟩ (by decide)
    exact absurd (agree.mp (by decide)) (by decide)
  · have agree := exact.agree ⟨"c", "acme", "orders", "quota at 90%", hour⟩ (by decide)
    exact absurd (agree.mpr (by decide)) (by decide)
  · have apart := exact.apart ⟨"a", "acme", "orders", "quota at 100%", 0⟩ (by decide)
      ⟨"b", "acme", "orders", "100 retries", 0⟩ (by decide) rfl
    exact absurd apart (by decide)

end MqConnector
