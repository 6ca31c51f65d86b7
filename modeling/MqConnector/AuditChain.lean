/-
This file asks whether an honest audit log always verifies.

`Insert` chains a row to the greatest row of its tenant, and `Verify` expects
every row to be chained to the one right below it. The two agree as long as every
row is greater, by instant and then id, than the rows of its tenant at the moment
it is written. The instant and the id are fixed before the mutex is taken, so
nothing makes the rows come in that order.
-/

import MqConnector.Audit
import Mathlib.Data.List.Chain
import Mathlib.Data.List.Infix

namespace MqConnector

/-! ### Sorted lists -/

section Sorted

variable {Row Rank : Type} [LinearOrder Rank] {rank : Row → Rank} {rows : List Row}

theorem filter_suffix_of_pairwise (test : Row → Bool)
    (upward : ∀ former latter, rank former < rank latter → test former = true → test latter = true)
    (sorted : rows.Pairwise fun former latter => rank former < rank latter) :
    rows.filter test <:+ rows := by
  induction rows with
  | nil => exact List.suffix_rfl
  | cons row rest hypothesis =>
    obtain ⟨least, sorted⟩ := List.pairwise_cons.mp sorted
    by_cases kept : test row = true
    · have all : rest.filter test = rest :=
        List.filter_eq_self.mpr fun later member => upward row later (least later member) kept
      rw [List.filter_cons_of_pos kept, all]
    · rw [List.filter_cons_of_neg kept]
      exact (hypothesis sorted).trans (List.suffix_cons row rest)

theorem eq_of_rank_eq (sorted : rows.Pairwise fun former latter => rank former < rank latter)
    {former latter : Row} (first : former ∈ rows) (second : latter ∈ rows)
    (same : rank former = rank latter) : former = latter := by
  have distinct : (rows.map rank).Nodup := List.pairwise_map.mpr (sorted.imp fun below => below.ne)
  exact List.inj_on_of_nodup_map distinct first second same

theorem eq_of_perm_of_sorted {other : List Row}
    (sorted : rows.Pairwise fun former latter => rank former < rank latter) (perm : other.Perm rows)
    (ordered : other.Pairwise fun former latter => rank former ≤ rank latter) : other = rows := by
  refine perm.eq_of_pairwise ?_ ordered (sorted.imp fun below => below.le)
  intro former latter first second below above
  exact eq_of_rank_eq sorted (perm.mem_iff.mp first) second (le_antisymm below above)

theorem eq_reverse_of_perm_of_sorted {other : List Row}
    (sorted : rows.Pairwise fun former latter => rank former < rank latter) (perm : other.Perm rows)
    (ordered : other.Pairwise fun former latter => rank latter ≤ rank former) :
    other = rows.reverse := by
  have upward : other.reverse = rows :=
    eq_of_perm_of_sorted sorted (other.reverse_perm.trans perm) (List.pairwise_reverse.mpr ordered)
  rw [← upward, List.reverse_reverse]

theorem mem_getLast?_of_suffix {upper : List Row} (suffix : upper <:+ rows) {last : Row}
    (found : last ∈ upper.getLast?) : last ∈ rows.getLast? := by
  obtain ⟨lower, rfl⟩ := suffix
  rw [List.getLast?_append, Option.mem_def.mp found]
  rfl

end Sorted

/-! ### Chains -/

section Chain

variable {sha256 : String → Fin 32 → UInt8} {rows : List AuditRow} {row : AuditRow}

/-- The rows are chained one to the next, and every hash is what the row says. -/
def Linked (sha256 : String → Fin 32 → UInt8) (rows : List AuditRow) : Prop :=
  (rows.IsChain fun former latter => latter.prevHash = former.hash) ∧
    ∀ row ∈ rows, row.hash = computeAuditHash sha256 row.prevHash row

/-- A row fits on a chain. -/
def Fits (sha256 : String → Fin 32 → UInt8) (row : AuditRow) (prior : Option String) : Prop :=
  row.hash = computeAuditHash sha256 row.prevHash row ∧ ∀ prev ∈ prior, row.prevHash = prev

theorem linked_nil : Linked sha256 [] :=
  ⟨List.IsChain.nil, fun _ member => absurd member List.not_mem_nil⟩

theorem linked_concat_iff :
    Linked sha256 (rows ++ [row]) ↔
      Linked sha256 rows ∧ Fits sha256 row (rows.getLast?.map fun last => last.hash) := by
  have prior : (∀ last ∈ rows.getLast?, ∀ next ∈ [row].head?, next.prevHash = last.hash) ↔
      ∀ prev ∈ rows.getLast?.map (fun last => last.hash), row.prevHash = prev := by
    cases rows.getLast? with
    | none => simp
    | some last => simp
  unfold Linked Fits
  rw [List.isChain_append, prior]
  constructor
  · rintro ⟨⟨chain, -, fits⟩, hashes⟩
    exact ⟨⟨chain, fun other member => hashes other (List.mem_append_left _ member)⟩,
      hashes row (List.mem_append_right _ List.mem_cons_self), fits⟩
  · rintro ⟨⟨chain, hashes⟩, hash, fits⟩
    refine ⟨⟨chain, List.isChain_singleton _, fits⟩, fun other member => ?_⟩
    rcases List.mem_append.mp member with earlier | newest
    · exact hashes other earlier
    · rw [List.mem_singleton.mp newest]
      exact hash

theorem Linked.suffix {upper : List AuditRow} (linked : Linked sha256 rows)
    (suffix : upper <:+ rows) : Linked sha256 upper :=
  ⟨linked.1.suffix suffix, fun row member => linked.2 row (suffix.subset member)⟩

theorem brokenWhy_eq_none_iff (prior : Option String) :
    brokenWhy sha256 row prior = none ↔ Fits sha256 row prior := by
  unfold brokenWhy Fits
  split
  · rename_i wrong
    exact ⟨nofun, fun fits => absurd fits.1.symm wrong⟩
  · rename_i right
    split
    · rename_i apart
      obtain ⟨prev, found, different⟩ := apart
      exact ⟨nofun, fun fits => absurd (fits.2 prev found) different⟩
    · rename_i together
      refine ⟨fun _ => ⟨(Classical.not_not.mp right).symm, fun prev found => ?_⟩, fun _ => rfl⟩
      by_contra different
      exact together ⟨prev, found, different⟩

/-! ### The walk of Verify -/

theorem tenantRows_concat (tenantID : String) :
    tenantRows (rows ++ [row]) tenantID =
      if row.tenantID = tenantID then tenantRows rows tenantID ++ [row]
      else tenantRows rows tenantID := by
  unfold tenantRows
  rw [List.filter_append]
  split
  · rename_i same
    rw [List.filter_cons_of_pos (by simpa using same), List.filter_nil]
  · rename_i different
    rw [List.filter_cons_of_neg (by simpa using different), List.filter_nil, List.append_nil]

@[simp]
theorem ChainStatus.visit_tenantID (status : ChainStatus) (prior : Option String) :
    (status.visit sha256 row prior).tenantID = status.tenantID := by
  unfold ChainStatus.visit
  dsimp only
  split
  · rfl
  · split
    · split
      · rfl
      · rfl
    · rfl

theorem ChainStatus.visit_ok_iff (status : ChainStatus) (prior : Option String)
    (hashed : row.hash ≠ "") :
    (status.visit sha256 row prior).status = .ok ↔ status.status = .ok ∧ Fits sha256 row prior := by
  rw [← brokenWhy_eq_none_iff]
  unfold ChainStatus.visit
  dsimp only
  rw [if_neg hashed]
  split
  · rename_i why broken
    rw [broken]
    split
    · exact ⟨nofun, fun both => absurd both.2 (Option.some_ne_none _)⟩
    · rename_i spoiled
      exact ⟨fun ok => absurd ok spoiled, fun both => both.1⟩
  · rename_i fits
    exact ⟨fun ok => ⟨ok, fits⟩, fun both => both.1⟩

/-- What the maps of `Verify` say after some rows. -/
structure Walked (sha256 : String → Fin 32 → UInt8) (walk : ChainWalk) (rows : List AuditRow) :
    Prop where
  expected : ∀ tenantID, walk.expectedPrev tenantID =
    (tenantRows rows tenantID).getLast?.map fun last => last.hash
  named : ∀ row ∈ rows, ∃ status ∈ walk.statusByTenant, status.tenantID = row.tenantID
  verdict : ∀ status ∈ walk.statusByTenant,
    (status.status = .ok ↔ Linked sha256 (tenantRows rows status.tenantID))

theorem walked_nil : Walked sha256 {} [] where
  expected _ := rfl
  named _ member := absurd member List.not_mem_nil
  verdict _ member := absurd member List.not_mem_nil

theorem Walked.visit {walk : ChainWalk} (walked : Walked sha256 walk rows) (hashed : row.hash ≠ "") :
    Walked sha256 (walk.visit sha256 row) (rows ++ [row]) := by
  -- the statuses with one for the row's tenant among them
  obtain ⟨known, same, verdict, among, still⟩ : ∃ known : List ChainStatus,
      (walk.visit sha256 row).statusByTenant = known.map (fun status =>
        if status.tenantID = row.tenantID then
          status.visit sha256 row (walk.expectedPrev row.tenantID)
        else status) ∧
      (∀ status ∈ known, (status.status = .ok ↔ Linked sha256 (tenantRows rows status.tenantID))) ∧
      (∃ status ∈ known, status.tenantID = row.tenantID) ∧
      ∀ status ∈ walk.statusByTenant, status ∈ known := by
    refine ⟨_, rfl, ?_⟩
    split
    · rename_i present
      exact ⟨walked.verdict, present, fun _ => id⟩
    · rename_i absent
      refine ⟨fun status member => ?_, ?_, fun _ member => List.mem_append_left _ member⟩
      · rcases List.mem_append.mp member with earlier | newest
        · exact walked.verdict status earlier
        · have none : tenantRows rows row.tenantID = [] := by
            refine List.filter_eq_nil_iff.mpr fun other member found => ?_
            obtain ⟨status, present, named⟩ := walked.named other member
            exact absent ⟨status, present, named.trans (of_decide_eq_true found)⟩
          rw [List.mem_singleton.mp newest]
          show ChainVerdict.ok = .ok ↔ Linked sha256 (tenantRows rows row.tenantID)
          rw [none]
          exact ⟨fun _ => linked_nil, fun _ => rfl⟩
      · exact ⟨_, List.mem_append_right _ List.mem_cons_self, rfl⟩
  have tenants : ∀ status : ChainStatus, (if status.tenantID = row.tenantID then
      status.visit sha256 row (walk.expectedPrev row.tenantID) else status).tenantID =
        status.tenantID := by
    intro status
    split
    · exact status.visit_tenantID _
    · rfl
  refine ⟨fun tenantID => ?_, fun other member => ?_, fun status member => ?_⟩
  · show Function.update walk.expectedPrev row.tenantID (some row.hash) tenantID = _
    rw [tenantRows_concat]
    by_cases here : row.tenantID = tenantID
    · rw [if_pos here, here, Function.update_self, List.getLast?_concat]
      rfl
    · rw [if_neg here, Function.update_of_ne fun found => here found.symm]
      exact walked.expected tenantID
  · obtain ⟨status, present, named⟩ : ∃ status ∈ known, status.tenantID = other.tenantID := by
      rcases List.mem_append.mp member with earlier | newest
      · obtain ⟨status, present, named⟩ := walked.named other earlier
        exact ⟨status, still status present, named⟩
      · rw [List.mem_singleton.mp newest]
        exact among
    rw [same]
    exact ⟨_, List.mem_map_of_mem present, (tenants status).trans named⟩
  · rw [same] at member
    obtain ⟨old, present, rfl⟩ := List.mem_map.mp member
    rw [tenants old, tenantRows_concat]
    by_cases here : old.tenantID = row.tenantID
    · rw [if_pos here, if_pos here.symm, linked_concat_iff, old.visit_ok_iff _ hashed,
        verdict old present, ← here, walked.expected]
    · rw [if_neg here, if_neg fun found => here found.symm]
      exact verdict old present

theorem walked_foldl (hashed : ∀ row ∈ rows, row.hash ≠ "") :
    Walked sha256 (rows.foldl (ChainWalk.visit sha256) {}) rows := by
  induction rows using List.reverseRecOn with
  | nil => exact walked_nil
  | append_singleton rows row hypothesis =>
    rw [List.foldl_append]
    refine (hypothesis fun other member => ?_).visit ?_
    · exact hashed other (List.mem_append_left _ member)
    · exact hashed row (List.mem_append_right _ List.mem_cons_self)

/-! ### Verify over a table in order -/

theorem pairwise_walkOrder (rows : List AuditRow) (tenantID : String) :
    (walkOrder rows tenantID).Pairwise fun former latter => former.key ≤ latter.key := by
  have total : Std.Total fun former latter : AuditRow => former.key ≤ latter.key :=
    ⟨fun former latter => le_total former.key latter.key⟩
  have transitive : IsTrans AuditRow fun former latter => former.key ≤ latter.key :=
    ⟨fun _ _ _ => le_trans⟩
  exact List.pairwise_insertionSort _ _

theorem rank_le_of_key_le {former latter : AuditRow} (same : former.tenantID = latter.tenantID)
    (below : former.key ≤ latter.key) : former.rank ≤ latter.rank := by
  rcases (Prod.Lex.le_iff ..).mp below with less | ⟨-, rank⟩
  · exact absurd same less.ne
  · exact rank

theorem tenantRows_walkOrder {tenantID selected : String}
    (sorted : (tenantRows rows tenantID).Pairwise fun former latter => former.rank < latter.rank)
    (asked : selected = "*" ∨ tenantID = selected) :
    tenantRows (walkOrder rows selected) tenantID = tenantRows rows tenantID := by
  refine eq_of_perm_of_sorted sorted ?_ ?_
  · have perm : (walkOrder rows selected).Perm
        (rows.filter fun row => selected = "*" ∨ row.tenantID = selected) :=
      List.perm_insertionSort _ _
    refine (perm.filter _).trans ?_
    rw [List.filter_filter]
    refine List.Perm.of_eq (List.filter_congr fun row _ => ?_)
    by_cases here : row.tenantID = tenantID
    · simp [here, asked]
    · simp [here]
  · refine List.Pairwise.imp_of_mem ?_ ((pairwise_walkOrder rows selected).filter _)
    intro former latter first second below
    have here := of_decide_eq_true (List.mem_filter.mp first).2
    have there := of_decide_eq_true (List.mem_filter.mp second).2
    exact rank_le_of_key_le (here.trans there.symm) below

theorem mem_walkOrder {selected : String} :
    row ∈ walkOrder rows selected ↔ row ∈ rows ∧ (selected = "*" ∨ row.tenantID = selected) := by
  rw [walkOrder, List.mem_insertionSort, List.mem_filter, decide_eq_true_iff]

/-- `Verify` reports every tenant of the rows it walks, and reports it fine. -/
def Verifies (sha256 : String → Fin 32 → UInt8) (rows : List AuditRow) : Prop :=
  ∀ tenantID, tenantID ≠ "" → ∃ statuses, verify sha256 rows tenantID = .ok statuses ∧
    (∀ status ∈ statuses, status.status = .ok) ∧
      ∀ row ∈ rows, tenantID = "*" ∨ row.tenantID = tenantID →
        ∃ status ∈ statuses, status.tenantID = row.tenantID

/-- A tenant's rows stand in the table in the order of the walk. -/
def Ordered (rows : List AuditRow) : Prop :=
  ∀ tenantID, (tenantRows rows tenantID).Pairwise fun former latter => former.rank < latter.rank

/-- A log in order whose rows are linked verifies. -/
theorem verifies_of_linked (ordered : Ordered rows)
    (linked : ∀ tenantID, Linked sha256 (tenantRows rows tenantID)) : Verifies sha256 rows := by
  have hashed : ∀ row ∈ rows, row.hash ≠ "" := by
    intro row member
    rw [(linked row.tenantID).2 row (List.mem_filter.mpr ⟨member, decide_eq_true rfl⟩)]
    exact encodeToString_ne_empty _
  intro selected named
  have walked : Walked sha256 _ (walkOrder rows selected) :=
    walked_foldl fun row member => hashed row (mem_walkOrder.mp member).1
  refine ⟨_, if_neg named, fun status member => ?_, fun row member asked => ?_⟩
  · refine (walked.verdict status member).mpr ?_
    by_cases asked : selected = "*" ∨ status.tenantID = selected
    · rw [tenantRows_walkOrder (ordered _) asked]
      exact linked _
    · have none : tenantRows (walkOrder rows selected) status.tenantID = [] := by
        refine List.filter_eq_nil_iff.mpr fun row among found => asked ?_
        exact of_decide_eq_true found ▸ (mem_walkOrder.mp among).2
      rw [none]
      exact linked_nil
  · exact walked.named row (mem_walkOrder.mpr ⟨member, asked⟩)

theorem chainHead_of_ordered (ordered : Ordered rows) (tenantID : String) :
    chainHead rows tenantID = (tenantRows rows tenantID).getLast?.map fun last => last.hash := by
  have total : Std.Total fun former latter : AuditRow => latter.rank ≤ former.rank :=
    ⟨fun former latter => le_total latter.rank former.rank⟩
  have transitive : IsTrans AuditRow fun former latter => latter.rank ≤ former.rank :=
    ⟨fun _ _ _ below above => above.trans below⟩
  have reversed : (tenantRows rows tenantID).insertionSort
      (fun former latter => latter.rank ≤ former.rank) = (tenantRows rows tenantID).reverse :=
    eq_reverse_of_perm_of_sorted (ordered tenantID) (List.perm_insertionSort _ _)
      (List.pairwise_insertionSort _ _)
  rw [chainHead, reversed, List.head?_reverse]

end Chain

/-! ### Every run -/

namespace AuditState

variable {sha256 : String → Fin 32 → UInt8} {state after : AuditState} {label : AuditLabel}

def headedRow : InsertPhase → Option AuditRow
  | .headed row _ => some row
  | _ => none

/-- The condition on a step: a row that is written is greater than the rows its tenant has. -/
def InOrder (state : AuditState) : AuditLabel → Prop
  | .write caller _ => ∀ row ∈ headedRow (state.callers caller), ∀ other ∈ state.rows,
      other.tenantID = row.tenantID → other.rank < row.rank
  | _ => True

instance (state : AuditState) : (label : AuditLabel) → Decidable (state.InOrder label)
  | .write caller _ => inferInstanceAs (Decidable (∀ row ∈ headedRow (state.callers caller), _))
  | .call _ _ _ _ | .head _ _ | .deleteOlderThan _ => isTrue trivial

/-- What links the table with what the callers have read. -/
structure ChainsKept (sha256 : String → Fin 32 → UInt8) (state : AuditState) : Prop where
  ordered : Ordered state.rows
  linked : ∀ tenantID, Linked sha256 (tenantRows state.rows tenantID)
  locked : ∀ caller row prev, state.callers caller = .headed row prev → state.chainMu = some caller
  headed : ∀ caller row prev, state.callers caller = .headed row prev →
    ∀ last ∈ (tenantRows state.rows row.tenantID).getLast?, last.hash = prev

theorem initial_chainsKept : ChainsKept sha256 {} where
  ordered _ := List.Pairwise.nil
  linked _ := linked_nil
  locked _ _ _ phase := nomatch phase
  headed _ _ _ phase := nomatch phase

theorem ChainsKept.setCaller (kept : state.ChainsKept sha256) (caller : Nat) (phase : InsertPhase)
    (outside : headedRow phase = none) : (state.setCaller caller phase).ChainsKept sha256 := by
  have before : ∀ {other row prev}, Function.update state.callers caller phase other =
      .headed row prev → state.callers other = .headed row prev := by
    intro other row prev found
    by_cases same : other = caller
    · rw [same, Function.update_self] at found
      rw [found] at outside
      cases outside
    · rwa [Function.update_of_ne same] at found
  exact { kept with
          locked := fun other row prev found => kept.locked other row prev (before found)
          headed := fun other row prev found => kept.headed other row prev (before found) }

theorem ChainsKept.head {caller : Nat} {row : AuditRow} (kept : state.ChainsKept sha256)
    (free : state.chainMu = none) :
    ChainsKept sha256 { state.setCaller caller
        (.headed row ((chainHead state.rows row.tenantID).getD "")) with
      chainMu := some caller } := by
  -- nobody else is under the mutex
  have alone : ∀ {other row prev}, state.callers other ≠ .headed row prev := by
    intro other row prev found
    exact absurd ((kept.locked other row prev found).symm.trans free) (Option.some_ne_none _)
  have found : ∀ {other held prev}, Function.update state.callers caller
      (.headed row ((chainHead state.rows row.tenantID).getD "")) other = .headed held prev →
        other = caller ∧ held = row ∧ prev = (chainHead state.rows row.tenantID).getD "" := by
    intro other held prev found
    by_cases same : other = caller
    · rw [same, Function.update_self] at found
      cases found
      exact ⟨same, rfl, rfl⟩
    · rw [Function.update_of_ne same] at found
      exact absurd found alone
  refine { ordered := kept.ordered, linked := kept.linked, locked := ?_, headed := ?_ }
  · intro other held prev phase
    rw [(found phase).1]
  · intro other held prev phase last member
    obtain ⟨-, rfl, rfl⟩ := found phase
    have greatest : (tenantRows state.rows held.tenantID).getLast? = some last := member
    rw [chainHead_of_ordered kept.ordered, greatest]
    rfl

theorem ChainsKept.alone_of_holds {caller : Nat} {row : AuditRow} {prev : String}
    (kept : state.ChainsKept sha256) (holds : state.callers caller = .headed row prev)
    {other : Nat} {held : AuditRow} {read : String} :
    Function.update state.callers caller .idle other ≠ .headed held read := by
  intro found
  by_cases same : other = caller
  · rw [same, Function.update_self] at found
    cases found
  · rw [Function.update_of_ne same] at found
    have mine := kept.locked caller row prev holds
    have theirs := kept.locked other held read found
    exact same (Option.some.inj (theirs.symm.trans mine))

theorem ChainsKept.write {caller : Nat} {row : AuditRow} {prev : String}
    (kept : state.ChainsKept sha256) (holds : state.callers caller = .headed row prev)
    (greatest : ∀ other ∈ state.rows, other.tenantID = row.tenantID → other.rank < row.rank) :
    ChainsKept sha256 { state.setCaller caller .idle with
      chainMu := none
      rows := state.rows ++ [row.chained sha256 prev] } := by
  refine { ordered := ?_, linked := ?_, locked := ?_, headed := ?_ }
  · intro tenantID
    show (tenantRows (state.rows ++ [row.chained sha256 prev]) tenantID).Pairwise _
    rw [tenantRows_concat]
    split
    · rename_i here
      refine List.pairwise_append.mpr ⟨kept.ordered tenantID, List.pairwise_singleton .., ?_⟩
      intro former earlier latter newest
      obtain ⟨member, tenant⟩ := List.mem_filter.mp earlier
      rw [List.mem_singleton.mp newest]
      exact greatest former member ((of_decide_eq_true tenant).trans here.symm)
    · exact kept.ordered tenantID
  · intro tenantID
    show Linked sha256 (tenantRows (state.rows ++ [row.chained sha256 prev]) tenantID)
    rw [tenantRows_concat]
    split
    · rename_i here
      obtain rfl : row.tenantID = tenantID := here
      refine linked_concat_iff.mpr ⟨kept.linked _, rfl, fun read found => ?_⟩
      obtain ⟨last, member, rfl⟩ := Option.map_eq_some_iff.mp (Option.mem_def.mp found)
      exact (kept.headed caller row prev holds last member).symm
    · exact kept.linked tenantID
  · exact fun other held read found => absurd found (kept.alone_of_holds holds)
  · exact fun other held read found => absurd found (kept.alone_of_holds holds)

theorem ChainsKept.release {caller : Nat} {row : AuditRow} {prev : String}
    (kept : state.ChainsKept sha256) (holds : state.callers caller = .headed row prev) :
    ChainsKept sha256 { state.setCaller caller .idle with chainMu := none } where
  ordered := kept.ordered
  linked := kept.linked
  locked _ _ _ found := absurd found (kept.alone_of_holds holds)
  headed _ _ _ found := absurd found (kept.alone_of_holds holds)

theorem tenantRows_prune_suffix {rows : List AuditRow} (ordered : Ordered rows) (cutoff : Int)
    (tenantID : String) :
    tenantRows (rows.filter fun row => cutoff ≤ row.instant) tenantID <:+ tenantRows rows tenantID := by
  unfold tenantRows
  rw [List.filter_filter]
  have commuted : (rows.filter fun row => decide (row.tenantID = tenantID) &&
      decide (cutoff ≤ row.instant)) = (tenantRows rows tenantID).filter
        fun row => decide (cutoff ≤ row.instant) := by
    rw [tenantRows, List.filter_filter]
    exact List.filter_congr fun row _ => Bool.and_comm ..
  rw [commuted]
  refine filter_suffix_of_pairwise _ ?_ (ordered tenantID)
  intro former latter below kept
  have instants : former.instant ≤ latter.instant := by
    rcases (Prod.Lex.lt_iff ..).mp below with less | ⟨same, -⟩
    · exact less.le
    · exact same.le
  exact decide_eq_true ((of_decide_eq_true kept).trans instants)

theorem ChainsKept.prune (kept : state.ChainsKept sha256) (cutoff : Int) :
    ChainsKept sha256 { state with rows := state.rows.filter fun row => cutoff ≤ row.instant } where
  ordered tenantID := (kept.ordered tenantID).sublist
    (tenantRows_prune_suffix kept.ordered cutoff tenantID).sublist
  linked tenantID := (kept.linked tenantID).suffix
    (tenantRows_prune_suffix kept.ordered cutoff tenantID)
  locked := kept.locked
  headed caller row prev holds last found := kept.headed caller row prev holds last
    (mem_getLast?_of_suffix (tenantRows_prune_suffix kept.ordered cutoff row.tenantID) found)

/-- Every step in order keeps the chains. -/
theorem step_chainsKept (kept : state.ChainsKept sha256) (ordered : state.InOrder label)
    (fired : state.step sha256 label = some after) : after.ChainsKept sha256 := by
  cases label with
  | call caller row freshID now =>
    simp only [step] at fired
    split at fired
    · cases fired
      exact kept.setCaller caller _ rfl
    · cases fired
  | head caller answered =>
    simp only [step] at fired
    split at fired
    · rename_i row fixed free
      split at fired
      · cases fired
        exact kept.head free
      · cases fired
        exact kept.setCaller caller _ rfl
    · cases fired
  | write caller answered =>
    simp only [step] at fired
    split at fired
    · rename_i row prev holds
      split at fired
      · cases fired
        refine kept.write holds (ordered row ?_)
        rw [holds]
        rfl
      · cases fired
        exact kept.release holds
    · cases fired
  | deleteOlderThan cutoff =>
    cases fired
    exact kept.prune cutoff

/-- In every run in which each row is written above the rows its tenant then has, `Verify` reports
every tenant fine in every state. -/
theorem verifies_of_inOrder (sha256 : String → Fin 32 → UInt8) (state : AuditState)
    (reached : Runs.Reaches (AuditState.step sha256) InOrder {} state) :
    Verifies sha256 state.rows := by
  have kept : state.ChainsKept sha256 := reached.invariant (ChainsKept sha256) initial_chainsKept
    fun _ _ _ kept ordered fired => step_chainsKept kept ordered fired
  exact verifies_of_linked kept.ordered kept.linked

/-- A row of the tenant `t`. -/
def auditRow (id : String) (instant : Int) : AuditRow :=
  { id, tenantID := "t", action := "POST", instant }

/-- Two callers fix their rows, and the one that was first writes last. -/
def lateWrite : List AuditLabel :=
  [.call 0 (auditRow "a" 1) "" 1, .call 1 (auditRow "b" 2) "" 2, .head 1 true, .write 1 true,
    .head 0 true, .write 0 true]

/-- Whatever the hash function, the history ends in a log that does not verify. -/
def Spoils (history : List AuditLabel) : Prop :=
  ∀ sha256, ∃ state, Runs.exec (AuditState.step sha256) (fun _ _ => True) {} history = some state ∧
    ¬ Verifies sha256 state.rows

/-- The row with the earlier instant is chained to the later one, and the later one to nothing. -/
theorem lateWrite_spoils : Spoils lateWrite := by
  intro sha256
  refine ⟨_, rfl, fun verifies => ?_⟩
  obtain ⟨statuses, verified, fine, named⟩ := verifies "t" (by decide)
  let later := (auditRow "b" 2).chained sha256 ""
  let earlier := (auditRow "a" 1).chained sha256 later.hash
  have below : ¬ later.key ≤ earlier.key := by
    show ¬ (toLex ("t", toLex ((2 : Int), "b")) : String ×ₗ (Int ×ₗ String)) ≤
      toLex ("t", toLex ((1 : Int), "a"))
    decide
  have walk : walkOrder [later, earlier] "t" = [earlier, later] := by
    show List.orderedInsert (fun former latter => former.key ≤ latter.key) later [earlier] = _
    rw [List.orderedInsert_cons, if_neg below]
    rfl
  have walked : Walked sha256 (([earlier, later] : List AuditRow).foldl (ChainWalk.visit sha256) {})
      [earlier, later] := by
    refine walked_foldl fun row member => ?_
    rcases List.mem_pair.mp member with rfl | rfl
    · exact encodeToString_ne_empty _
    · exact encodeToString_ne_empty _
  obtain ⟨status, among, tenant⟩ := named later List.mem_cons_self (Or.inr rfl)
  have ok := fine status among
  have reported : ([earlier, later].foldl (ChainWalk.visit sha256) {}).statusByTenant = statuses := by
    rw [← walk]
    exact Except.ok.inj verified
  rw [← reported] at among
  have linked := (walked.verdict status among).mp ok
  rw [tenant] at linked
  have chained : later.prevHash = earlier.hash :=
    (List.isChain_cons_cons.mp (show List.IsChain _ [earlier, later] from linked.1)).1
  exact encodeToString_ne_empty _ chained.symm

/-- Rows are written in the order of their instants. -/
def InstantsRise (state : AuditState) : AuditLabel → Prop
  | .write caller _ => ∀ row ∈ headedRow (state.callers caller), ∀ other ∈ state.rows,
      other.instant < row.instant
  | _ => True

instance (state : AuditState) : (label : AuditLabel) → Decidable (state.InstantsRise label)
  | .write caller _ => inferInstanceAs (Decidable (∀ row ∈ headedRow (state.callers caller), _))
  | .call _ _ _ _ | .head _ _ | .deleteOlderThan _ => isTrue trivial

theorem inOrder_of_instantsRise (rise : state.InstantsRise label) : state.InOrder label := by
  cases label with
  | write caller answered =>
    intro row found other member _
    exact (Prod.Lex.lt_iff ..).mpr (Or.inl (rise row found other member))
  | _ => trivial

/-- Three rows written in their order, the first pruned in the middle of the second call. -/
def promptWrites : List AuditLabel :=
  [.call 0 (auditRow "a" 1) "" 1, .head 0 true, .write 0 true, .call 1 (auditRow "b" 2) "" 2,
    .head 1 true, .deleteOlderThan 2, .write 1 true, .call 0 (auditRow "c" 3) "" 3, .head 0 true,
    .write 0 true]

/-- Whatever the hash function, the history ends in a log of so many rows that verifies. -/
def Passes (history : List AuditLabel) (count : Nat) : Prop :=
  ∀ sha256, ∃ state, Runs.exec (AuditState.step sha256) InstantsRise {} history = some state ∧
    state.rows.length = count ∧ Verifies sha256 state.rows

/-- Three calls in their order, the first row pruned on the way: a log of two rows, which verifies. -/
theorem promptWrites_pass : Passes promptWrites 2 := by
  intro sha256
  have executed : ∃ state, Runs.exec (AuditState.step sha256) InstantsRise {} promptWrites =
      some state ∧ state.rows.length = 2 := ⟨_, rfl, rfl⟩
  obtain ⟨state, executed, count⟩ := executed
  refine ⟨state, executed, count, verifies_of_inOrder sha256 state ?_⟩
  exact (Runs.reaches_of_exec _ _ _ executed).mono fun _ _ _ rise => inOrder_of_instantsRise rise

end AuditState

end MqConnector
