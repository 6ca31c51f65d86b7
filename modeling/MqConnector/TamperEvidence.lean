/-
This file asks whether `Verify` notices a row of the audit log that was edited or
deleted behind its back.

Deleting a row between two others of its tenant is always noticed, since its
successor is chained to it. An edit is noticed by the row's own hash as long as the
text that is hashed changes with the fields. `canonicalAuditBytes` joins the fields
by line feeds "so a stray field that happens to contain another field's value can't
collide", but the fields may hold line feeds themselves, so one text can stand for
different rows.

SHA-256 is a function to 32 bytes; that it is taken to be injective says here that
the texts of the rows at hand do not collide.
-/

import MqConnector.AuditChain
import Mathlib

namespace MqConnector

/-! ### Neighbours in a sorted list -/

section Neighbours

variable {Row Rank : Type} [LinearOrder Rank] {rank : Row → Rank}

theorem isChain_iff_neighbours {rows : List Row} {Link : Row → Row → Prop}
    (sorted : rows.Pairwise fun former latter => rank former < rank latter) :
    rows.IsChain Link ↔ ∀ former ∈ rows, ∀ latter ∈ rows, rank former < rank latter →
      (∀ other ∈ rows, rank former < rank other → ¬ rank other < rank latter) →
      Link former latter := by
  induction rows with
  | nil => exact iff_of_true .nil fun _ member => absurd member List.not_mem_nil
  | cons least rest hypothesis =>
    obtain ⟨above, sortedRest⟩ := List.pairwise_cons.mp sorted
    rw [List.isChain_cons, hypothesis sortedRest]
    constructor
    · rintro ⟨first, others⟩ former formerIn latter latterIn below apart
      -- nothing is below the least element
      obtain rfl | latterLater := List.mem_cons.mp latterIn
      · rcases List.mem_cons.mp formerIn with rfl | formerLater
        · exact absurd below (lt_irrefl _)
        · exact absurd below (above former formerLater).not_gt
      obtain rfl | formerLater := List.mem_cons.mp formerIn
      · refine first latter ?_
        cases rest with
        | nil => exact absurd latterLater List.not_mem_nil
        | cons second tail =>
          obtain rfl | beyond := List.mem_cons.mp latterLater
          · rfl
          · have between := (List.pairwise_cons.mp sortedRest).1 latter beyond
            exact absurd between (apart second (List.mem_cons_of_mem _ List.mem_cons_self)
              (above second List.mem_cons_self))
      · exact others former formerLater latter latterLater below fun other member =>
          apart other (List.mem_cons_of_mem _ member)
    · intro all
      refine ⟨?_, ?_⟩
      · intro second found
        have member : second ∈ rest := List.mem_of_mem_head? found
        refine all least List.mem_cons_self second (List.mem_cons_of_mem _ member)
          (above second member) ?_
        intro other otherIn beyond inside
        rcases List.mem_cons.mp otherIn with rfl | otherLater
        · exact lt_irrefl _ beyond
        · obtain ⟨tail, rfl⟩ : ∃ tail, rest = second :: tail := List.head?_eq_some_iff.mp found
          rcases List.mem_cons.mp otherLater with rfl | further
          · exact lt_irrefl _ inside
          · exact absurd inside ((List.pairwise_cons.mp sortedRest).1 other further).not_gt
      · intro former formerIn latter latterIn below apart
        refine all former (List.mem_cons_of_mem _ formerIn) latter (List.mem_cons_of_mem _ latterIn)
          below ?_
        intro other otherIn beyond
        rcases List.mem_cons.mp otherIn with rfl | otherLater
        · exact absurd beyond (above former formerIn).not_gt
        · exact apart other otherLater beyond

end Neighbours

/-! ### Tampering -/

/-- What `uuid.NewString` gives: 36 characters, lower-case hexadecimal digits and dashes. -/
def IsUUID (id : String) : Prop :=
  id.toList.length = 36 ∧
    id.toList.all (fun char => "0123456789abcdef-".toList.contains char) = true

instance (id : String) : Decidable (IsUUID id) :=
  inferInstanceAs (Decidable (_ ∧ _))

/-- The table is built by `Insert` alone, and every id is a UUID. -/
def AuditState.Inserts (_ : AuditState) : AuditLabel → Prop
  | .call _ row freshID now => IsUUID (row.complete freshID now).id
  | .deleteOlderThan _ => False
  | _ => True

instance (state : AuditState) : (label : AuditLabel) → Decidable (state.Inserts label)
  | .call _ row freshID now => inferInstanceAs (Decidable (IsUUID (row.complete freshID now).id))
  | .deleteOlderThan _ => isFalse id
  | .head _ _ | .write _ _ => isTrue trivial

def AuditRow.hashedText (row : AuditRow) : String :=
  row.prevHash ++ row.canonicalAuditBytes

/-- SHA-256 does not collide on the texts of the rows. -/
def NoCollision (sha256 : String → Fin 32 → UInt8) (rows : List AuditRow) : Prop :=
  ∀ former ∈ rows, ∀ latter ∈ rows, sha256 former.hashedText = sha256 latter.hashedText →
    former.hashedText = latter.hashedText

/-- The row with other contents, the id and the stored hashes left as they are. -/
structure Edits (row edited : AuditRow) : Prop where
  id : edited.id = row.id
  hash : edited.hash = row.hash
  prevHash : edited.prevHash = row.prevHash
  changed : edited ≠ row

/-- The table with the row of this id replaced. -/
def replaceRow (rows : List AuditRow) (edited : AuditRow) : List AuditRow :=
  rows.map fun other => if other.id = edited.id then edited else other

def dropRow (rows : List AuditRow) (row : AuditRow) : List AuditRow :=
  rows.filter fun other => other.id ≠ row.id

/-- `Verify`, asked for all tenants, reports nothing broken. -/
def VerifiesAll (sha256 : String → Fin 32 → UInt8) (rows : List AuditRow) : Prop :=
  ∃ statuses, verify sha256 rows "*" = .ok statuses ∧ ∀ status ∈ statuses, status.status = .ok

/-- `Verify`, asked for all tenants, reports this tenant broken. -/
def ReportsBroken (sha256 : String → Fin 32 → UInt8) (rows : List AuditRow) (tenantID : String) :
    Prop :=
  ∃ statuses, verify sha256 rows "*" = .ok statuses ∧
    ∃ status ∈ statuses, status.tenantID = tenantID ∧ status.status = .broken

/-- Two rows of one tenant in the order of the walk. -/
def Below (former latter : AuditRow) : Prop :=
  former.tenantID = latter.tenantID ∧ former.rank < latter.rank

/-- A row is neither the first nor the last of its tenant. -/
def Between (rows : List AuditRow) (row : AuditRow) : Prop :=
  (∃ other ∈ rows, Below other row) ∧ ∃ other ∈ rows, Below row other

/-- The condition on an edit: it changes the text that is hashed, or it moves the row past another
of its tenant, or it takes a row from between two others of its tenant to another tenant, or it
takes a row to another tenant that has rows. -/
def Shows (rows : List AuditRow) (row edited : AuditRow) : Prop :=
  edited.canonicalAuditBytes ≠ row.canonicalAuditBytes ∨
    (edited.tenantID = row.tenantID ∧ ∃ other ∈ rows, other.tenantID = row.tenantID ∧ other ≠ row ∧
      ¬ (other.rank < row.rank ↔ other.rank < edited.rank)) ∨
    (edited.tenantID ≠ row.tenantID ∧
      (Between rows row ∨ ∃ other ∈ rows, other.tenantID = edited.tenantID))

/-! ### What Verify decides -/

section Verify

variable {sha256 : String → Fin 32 → UInt8} {rows : List AuditRow} {tenantID : String}

/-- Every row of the tenant has the hash its contents give, and is chained to the one right below
it. -/
structure Sound (sha256 : String → Fin 32 → UInt8) (rows : List AuditRow) (tenantID : String) :
    Prop where
  hashes : ∀ row ∈ rows, row.tenantID = tenantID →
    row.hash = computeAuditHash sha256 row.prevHash row
  links : ∀ former ∈ rows, ∀ latter ∈ rows, former.tenantID = tenantID → Below former latter →
    (∀ other ∈ rows, Below former other → ¬ Below other latter) → latter.prevHash = former.hash

theorem mem_walk {row : AuditRow} :
    row ∈ tenantRows (walkOrder rows "*") tenantID ↔ row ∈ rows ∧ row.tenantID = tenantID := by
  rw [tenantRows, List.mem_filter, mem_walkOrder, decide_eq_true_iff]
  simp only [true_or, and_true]

theorem pairwise_walk (distinct : (rows.map fun row => row.id).Nodup) :
    (tenantRows (walkOrder rows "*") tenantID).Pairwise fun former latter =>
      former.rank < latter.rank := by
  have apart : (walkOrder rows "*").Pairwise fun former latter => former.id ≠ latter.id := by
    refine List.pairwise_map.mp (List.Perm.nodup ?_ distinct)
    have all : (rows.filter fun row => decide ("*" = "*" ∨ row.tenantID = "*")) = rows :=
      List.filter_eq_self.mpr fun _ _ => decide_eq_true (Or.inl rfl)
    rw [walkOrder, all]
    exact (List.perm_insertionSort _ _).symm.map _
  refine List.Pairwise.imp_of_mem ?_ (((pairwise_walkOrder rows "*").and apart).filter _)
  rintro former latter first second ⟨below, different⟩
  have here := of_decide_eq_true (List.mem_filter.mp first).2
  have there := of_decide_eq_true (List.mem_filter.mp second).2
  refine lt_of_le_of_ne (rank_le_of_key_le (here.trans there.symm) below) ?_
  intro same
  exact different (Prod.mk.inj (toLex.injective same)).2

theorem linked_walk_iff (distinct : (rows.map fun row => row.id).Nodup) :
    Linked sha256 (tenantRows (walkOrder rows "*") tenantID) ↔ Sound sha256 rows tenantID := by
  rw [Linked, isChain_iff_neighbours (pairwise_walk distinct)]
  simp only [mem_walk, and_imp]
  constructor
  · rintro ⟨links, hashes⟩
    refine ⟨hashes, ?_⟩
    rintro former formerIn latter latterIn here ⟨same, below⟩ apart
    refine links former formerIn here latter latterIn (same.symm.trans here) below ?_
    intro other otherIn there beyond inside
    exact apart other otherIn ⟨here.trans there.symm, beyond⟩
      ⟨there.trans (here.symm.trans same), inside⟩
  · rintro ⟨hashes, links⟩
    refine ⟨?_, hashes⟩
    intro former formerIn here latter latterIn there below apart
    refine links former formerIn latter latterIn here ⟨here.trans there.symm, below⟩ ?_
    rintro other otherIn ⟨same, beyond⟩ ⟨-, inside⟩
    exact apart other otherIn (same.symm.trans here) beyond inside

theorem reportsBroken_iff (distinct : (rows.map fun row => row.id).Nodup)
    (hashed : ∀ row ∈ rows, row.hash ≠ "") :
    ReportsBroken sha256 rows tenantID ↔ ¬ Sound sha256 rows tenantID := by
  have walked : Walked sha256 _ (walkOrder rows "*") :=
    walked_foldl fun row member => hashed row (mem_walkOrder.mp member).1
  have answered : verify sha256 rows "*" =
      .ok ((walkOrder rows "*").foldl (ChainWalk.visit sha256) {}).statusByTenant :=
    if_neg (by decide)
  constructor
  · rintro ⟨statuses, verified, status, among, rfl, broken⟩ sound
    rw [answered] at verified
    rw [← Except.ok.inj verified] at among
    have ok := (walked.verdict status among).mpr ((linked_walk_iff distinct).mpr sound)
    rw [ok] at broken
    exact ChainVerdict.noConfusion broken
  · intro unsound
    -- a tenant without rows is sound
    obtain ⟨row, member, here⟩ : ∃ row ∈ rows, row.tenantID = tenantID := by
      by_contra absent
      refine unsound ⟨fun row member here => absurd ⟨row, member, here⟩ absent, ?_⟩
      exact fun former formerIn _ _ here => absurd ⟨former, formerIn, here⟩ absent
    obtain ⟨status, among, named⟩ :=
      walked.named row (mem_walkOrder.mpr ⟨member, Or.inl rfl⟩)
    refine ⟨_, answered, status, among, named.trans here, ?_⟩
    cases verdict : status.status with
    | broken => rfl
    | ok =>
      have linked := (walked.verdict status among).mp verdict
      rw [named, here] at linked
      exact absurd ((linked_walk_iff distinct).mp linked) unsound

theorem sound_of_verifiesAll (distinct : (rows.map fun row => row.id).Nodup)
    (hashed : ∀ row ∈ rows, row.hash ≠ "") (verified : VerifiesAll sha256 rows)
    (tenantID : String) : Sound sha256 rows tenantID := by
  by_contra unsound
  obtain ⟨statuses, answered, status, among, -, broken⟩ :=
    (reportsBroken_iff distinct hashed).mpr unsound
  obtain ⟨others, answeredToo, fine⟩ := verified
  rw [Except.ok.inj (answered.symm.trans answeredToo)] at among
  exact ChainVerdict.noConfusion ((fine status among).symm.trans broken)

theorem verifiesAll_of_sound (distinct : (rows.map fun row => row.id).Nodup)
    (hashed : ∀ row ∈ rows, row.hash ≠ "") (sound : ∀ tenantID, Sound sha256 rows tenantID) :
    VerifiesAll sha256 rows := by
  have walked : Walked sha256 _ (walkOrder rows "*") :=
    walked_foldl fun row member => hashed row (mem_walkOrder.mp member).1
  refine ⟨_, if_neg (by decide), fun status among => ?_⟩
  exact (walked.verdict status among).mpr ((linked_walk_iff distinct).mpr (sound _))

theorem sound_singleton {row : AuditRow}
    (hash : row.hash = computeAuditHash sha256 row.prevHash row) (tenantID : String) :
    Sound sha256 [row] tenantID := by
  refine ⟨fun other member _ => List.mem_singleton.mp member ▸ hash, ?_⟩
  intro former formerIn latter latterIn _ below _
  rw [List.mem_singleton.mp formerIn, List.mem_singleton.mp latterIn] at below
  exact absurd below.2 (lt_irrefl _)

end Verify

/-! ### Texts and hashes -/

section Texts

theorem hexDigit_ne_newline : ∀ value < 16, hexDigit value ≠ '\n' := by
  decide

theorem newline_notMem_encodeToString (digest : Fin 32 → UInt8) :
    '\n' ∉ (encodeToString digest).toList := by
  rw [encodeToString, String.toList_ofList]
  intro member
  obtain ⟨byte, -, digit⟩ := List.mem_flatMap.mp member
  have bound := byte.toNat_lt_size
  have sizes : UInt8.size = 256 := rfl
  rcases List.mem_pair.mp digit with high | low
  · exact hexDigit_ne_newline _ (by omega) high.symm
  · exact hexDigit_ne_newline _ (by omega) low.symm

theorem IsUUID.newline_notMem {id : String} (uuid : IsUUID id) : '\n' ∉ id.toList := by
  intro member
  exact absurd (List.all_eq_true.mp uuid.2 '\n' member) (by decide)

theorem firstLine_eq {former latter rest others : List Char} (formerClean : '\n' ∉ former)
    (latterClean : '\n' ∉ latter) (same : former ++ '\n' :: rest = latter ++ '\n' :: others) :
    former = latter := by
  induction former generalizing latter with
  | nil =>
    cases latter with
    | nil => rfl
    | cons char chars =>
      obtain ⟨newline, -⟩ := List.cons_eq_cons.mp same
      exact absurd (newline ▸ List.mem_cons_self) latterClean
  | cons char chars hypothesis =>
    cases latter with
    | nil =>
      obtain ⟨newline, -⟩ := List.cons_eq_cons.mp same
      exact absurd (newline ▸ List.mem_cons_self) formerClean
    | cons char' chars' =>
      obtain ⟨first, further⟩ := List.cons_eq_cons.mp same
      rw [first, hypothesis (fun member => formerClean (List.mem_cons_of_mem _ member))
        (fun member => latterClean (List.mem_cons_of_mem _ member)) further]

theorem AuditRow.hashedText_toList (row : AuditRow) :
    ∃ rest, row.hashedText.toList = (row.prevHash.toList ++ row.id.toList) ++ '\n' :: rest := by
  refine ⟨("\n".intercalate [row.tenantID, toString (unixNano row.instant), row.actor, row.actorSub,
    row.action, row.resource, toString row.status, row.requestID, row.remoteIP]).toList, ?_⟩
  rw [hashedText, canonicalAuditBytes, String.intercalate_cons_cons, String.toList_append,
    String.toList_append, String.toList_append, List.append_assoc, List.append_assoc]
  rfl

theorem id_eq_of_hashedText_eq {former latter : AuditRow} (formerID : IsUUID former.id)
    (latterID : IsUUID latter.id) (formerPrev : '\n' ∉ former.prevHash.toList)
    (latterPrev : '\n' ∉ latter.prevHash.toList) (same : former.hashedText = latter.hashedText) :
    former.id = latter.id := by
  obtain ⟨rest, formerText⟩ := former.hashedText_toList
  obtain ⟨others, latterText⟩ := latter.hashedText_toList
  have lines : former.prevHash.toList ++ former.id.toList =
      latter.prevHash.toList ++ latter.id.toList := by
    refine firstLine_eq ?_ ?_ (formerText.symm.trans ((congrArg _ same).trans latterText))
    · exact fun member => (List.mem_append.mp member).elim formerPrev formerID.newline_notMem
    · exact fun member => (List.mem_append.mp member).elim latterPrev latterID.newline_notMem
  have ids := (List.append_inj' lines (formerID.1.trans latterID.1.symm)).2
  exact String.toList_injective ids

end Texts

/-! ### Tables built by Insert -/

section Inserted

variable {sha256 : String → Fin 32 → UInt8} {rows : List AuditRow}

/-- How many rows were written before the one with this id. -/
def age (rows : List AuditRow) (row : AuditRow) : Nat :=
  (rows.map fun other => other.id).idxOf row.id

/-- What `Insert` leaves: ids that are UUIDs and differ, the hash of every row, and every row
chained to an older one of its tenant or to nothing. -/
structure Inserted (sha256 : String → Fin 32 → UInt8) (rows : List AuditRow) : Prop where
  identified : ∀ row ∈ rows, IsUUID row.id
  distinct : (rows.map fun row => row.id).Nodup
  hashes : ∀ row ∈ rows, row.hash = computeAuditHash sha256 row.prevHash row
  chained : ∀ row ∈ rows, row.prevHash = "" ∨ ∃ older ∈ rows,
    older.tenantID = row.tenantID ∧ older.hash = row.prevHash ∧ age rows older < age rows row

theorem inserted_nil : Inserted sha256 [] where
  identified _ member := absurd member List.not_mem_nil
  distinct := List.nodup_nil
  hashes _ member := absurd member List.not_mem_nil
  chained _ member := absurd member List.not_mem_nil

theorem age_concat_of_mem {row added : AuditRow} (member : row ∈ rows) :
    age (rows ++ [added]) row = age rows row := by
  rw [age, List.map_append]
  exact List.idxOf_append_of_mem (List.mem_map_of_mem member)

theorem age_lt_of_mem {row : AuditRow} (member : row ∈ rows) : age rows row < rows.length := by
  have bound := List.idxOf_lt_length_of_mem
    (List.mem_map_of_mem member : row.id ∈ rows.map fun other => other.id)
  rwa [List.length_map] at bound

theorem age_concat_self {added : AuditRow} (fresh : ∀ other ∈ rows, other.id ≠ added.id) :
    age (rows ++ [added]) added = rows.length := by
  have absent : added.id ∉ rows.map fun other => other.id := by
    intro member
    obtain ⟨other, found, same⟩ := List.mem_map.mp member
    exact fresh other found same
  rw [age, List.map_append, List.idxOf_append_of_notMem absent, List.length_map]
  exact congrArg _ List.idxOf_cons_self

theorem chainHead_mem {tenantID hash : String} (found : chainHead rows tenantID = some hash) :
    ∃ older ∈ rows, older.tenantID = tenantID ∧ older.hash = hash := by
  obtain ⟨older, first, rfl⟩ := Option.map_eq_some_iff.mp found
  obtain ⟨member, here⟩ :=
    List.mem_filter.mp ((List.mem_insertionSort _).mp (List.mem_of_mem_head? first))
  exact ⟨older, member, of_decide_eq_true here, rfl⟩

theorem Inserted.concat (inserted : Inserted sha256 rows) {row : AuditRow}
    (identified : IsUUID row.id) (fresh : ∀ other ∈ rows, other.id ≠ row.id) :
    Inserted sha256 (rows ++ [row.chained sha256 ((chainHead rows row.tenantID).getD "")]) := by
  have freshChained : ∀ other ∈ rows,
      other.id ≠ (row.chained sha256 ((chainHead rows row.tenantID).getD "")).id := fresh
  refine ⟨?_, ?_, ?_, ?_⟩
  · intro other member
    rcases List.mem_append.mp member with earlier | newest
    · exact inserted.identified other earlier
    · rw [List.mem_singleton.mp newest]
      exact identified
  · rw [List.map_append, List.nodup_append]
    refine ⟨inserted.distinct, List.nodup_singleton _, ?_⟩
    intro former earlier latter newest
    obtain ⟨other, found, rfl⟩ := List.mem_map.mp earlier
    rw [List.mem_singleton.mp newest]
    exact fresh other found
  · intro other member
    rcases List.mem_append.mp member with earlier | newest
    · exact inserted.hashes other earlier
    · rw [List.mem_singleton.mp newest]
      rfl
  · intro other member
    rcases List.mem_append.mp member with earlier | newest
    · refine (inserted.chained other earlier).imp_right ?_
      rintro ⟨older, found, here, hash, before⟩
      refine ⟨older, List.mem_append_left _ found, here, hash, ?_⟩
      rwa [age_concat_of_mem found, age_concat_of_mem earlier]
    · rw [List.mem_singleton.mp newest]
      cases head : chainHead rows row.tenantID with
      | none => exact Or.inl rfl
      | some hash =>
        obtain ⟨older, found, here, same⟩ := chainHead_mem head
        rw [head] at freshChained
        refine Or.inr ⟨older, List.mem_append_left _ found, here, same, ?_⟩
        rw [age_concat_of_mem found, age_concat_self freshChained]
        exact age_lt_of_mem found

end Inserted

namespace AuditState

variable {sha256 : String → Fin 32 → UInt8} {state after : AuditState} {label : AuditLabel}

/-- The invariant of a run of calls of `Insert`: the rows in hand have UUIDs, and whoever has read
the head holds the mutex and has read the head there is. -/
structure InsertsKept (sha256 : String → Fin 32 → UInt8) (state : AuditState) : Prop where
  inserted : Inserted sha256 state.rows
  fixed : ∀ caller row, state.callers caller = .fixed row → IsUUID row.id
  headed : ∀ caller row prev, state.callers caller = .headed row prev →
    state.chainMu = some caller ∧ IsUUID row.id ∧
      prev = (chainHead state.rows row.tenantID).getD ""

theorem initial_insertsKept : InsertsKept sha256 {} where
  inserted := inserted_nil
  fixed _ _ phase := nomatch phase
  headed _ _ _ phase := nomatch phase

theorem InsertsKept.setCaller (kept : state.InsertsKept sha256) (caller : Nat) (phase : InsertPhase)
    (outside : headedRow phase = none) (identified : ∀ row, phase = .fixed row → IsUUID row.id) :
    (state.setCaller caller phase).InsertsKept sha256 := by
  refine ⟨kept.inserted, ?_, ?_⟩
  · intro other row does
    rcases Runs.update_cases does with ⟨-, found⟩ | ⟨-, found⟩
    · exact identified row found
    · exact kept.fixed other row found
  · intro other row prev does
    rcases Runs.update_cases does with ⟨-, found⟩ | ⟨-, found⟩
    · rw [found] at outside
      exact absurd outside (Option.some_ne_none _)
    · exact kept.headed other row prev found

theorem InsertsKept.head {caller : Nat} {row : AuditRow} (kept : state.InsertsKept sha256)
    (free : state.chainMu = none) (holds : state.callers caller = .fixed row) :
    InsertsKept sha256 { state.setCaller caller
        (.headed row ((chainHead state.rows row.tenantID).getD "")) with
      chainMu := some caller } := by
  refine ⟨kept.inserted, ?_, ?_⟩
  · intro other held does
    rcases Runs.update_cases does with ⟨-, found⟩ | ⟨-, found⟩
    · exact InsertPhase.noConfusion found
    · exact kept.fixed other held found
  · intro other held prev does
    rcases Runs.update_cases does with ⟨rfl, found⟩ | ⟨-, found⟩
    · obtain ⟨rfl, rfl⟩ := InsertPhase.headed.inj found
      exact ⟨rfl, kept.fixed other _ holds, rfl⟩
    · -- nobody else is under the mutex
      have locked := (kept.headed other held prev found).1
      exact absurd (locked.symm.trans free) (Option.some_ne_none _)

theorem InsertsKept.release {caller : Nat} {row : AuditRow} {prev : String}
    (kept : state.InsertsKept sha256) (holds : state.callers caller = .headed row prev)
    {rows : List AuditRow} (inserted : Inserted sha256 rows) :
    InsertsKept sha256 { state.setCaller caller .idle with
      chainMu := none
      rows } := by
  refine ⟨inserted, ?_, ?_⟩
  · intro other held does
    rcases Runs.update_cases does with ⟨-, found⟩ | ⟨-, found⟩
    · exact InsertPhase.noConfusion found
    · exact kept.fixed other held found
  · intro other held read does
    rcases Runs.update_cases does with ⟨-, found⟩ | ⟨different, found⟩
    · exact InsertPhase.noConfusion found
    · have mine := (kept.headed caller row prev holds).1
      have theirs := (kept.headed other held read found).1
      exact absurd (Option.some.inj (theirs.symm.trans mine)) different

theorem step_insertsKept (kept : state.InsertsKept sha256) (permitted : state.Inserts label)
    (fired : state.step sha256 label = some after) : after.InsertsKept sha256 := by
  cases label with
  | call caller row freshID now =>
    simp only [step] at fired
    split at fired
    · cases fired
      refine kept.setCaller caller _ rfl ?_
      intro fixed same
      rw [← InsertPhase.fixed.inj same]
      exact permitted
    · cases fired
  | head caller answered =>
    simp only [step] at fired
    split at fired
    · rename_i row fixed free
      split at fired
      · cases fired
        exact kept.head free fixed
      · cases fired
        exact kept.setCaller caller _ rfl fun _ same => InsertPhase.noConfusion same
    · cases fired
  | write caller answered =>
    simp only [step] at fired
    split at fired
    · rename_i row prev holds
      obtain ⟨-, identified, read⟩ := kept.headed caller row prev holds
      split at fired
      · rename_i written
        cases fired
        rw [read]
        exact kept.release holds (kept.inserted.concat identified written.2)
      · cases fired
        exact kept.release holds kept.inserted
    · cases fired
  | deleteOlderThan cutoff => exact absurd permitted id

theorem inserted_of_reaches
    (reached : Runs.Reaches (AuditState.step sha256) Inserts {} state) :
    Inserted sha256 state.rows :=
  (reached.invariant (InsertsKept sha256) initial_insertsKept
    fun _ _ _ kept permitted fired => step_insertsKept kept permitted fired).inserted

end AuditState

/-! ### Links and their ages -/

section Links

variable {sha256 : String → Fin 32 → UInt8} {rows : List AuditRow} {tenantID : String}

theorem exists_predecessor {row : AuditRow} (lower : ∃ other ∈ rows, Below other row) :
    ∃ former ∈ rows, Below former row ∧
      ∀ other ∈ rows, Below former other → ¬ Below other row := by
  obtain ⟨other, member, below⟩ := lower
  obtain ⟨former, found, greatest⟩ := Finset.exists_max_image
    (rows.toFinset.filter fun other => other.tenantID = row.tenantID ∧ other.rank < row.rank)
    AuditRow.rank
    ⟨other, Finset.mem_filter.mpr ⟨List.mem_toFinset.mpr member, below.1, below.2⟩⟩
  obtain ⟨formerIn, formerBelow⟩ := Finset.mem_filter.mp found
  refine ⟨former, List.mem_toFinset.mp formerIn, formerBelow, ?_⟩
  intro between betweenIn beyond inside
  have most := greatest between
    (Finset.mem_filter.mpr ⟨List.mem_toFinset.mpr betweenIn, inside⟩)
  exact absurd beyond.2 most.not_gt

theorem exists_successor {row : AuditRow} (upper : ∃ other ∈ rows, Below row other) :
    ∃ latter ∈ rows, Below row latter ∧
      ∀ other ∈ rows, Below row other → ¬ Below other latter := by
  obtain ⟨other, member, below⟩ := upper
  obtain ⟨latter, found, least⟩ := Finset.exists_min_image
    (rows.toFinset.filter fun other => row.tenantID = other.tenantID ∧ row.rank < other.rank)
    AuditRow.rank
    ⟨other, Finset.mem_filter.mpr ⟨List.mem_toFinset.mpr member, below.1, below.2⟩⟩
  obtain ⟨latterIn, latterAbove⟩ := Finset.mem_filter.mp found
  refine ⟨latter, List.mem_toFinset.mp latterIn, latterAbove, ?_⟩
  intro between betweenIn beyond inside
  have most := least between
    (Finset.mem_filter.mpr ⟨List.mem_toFinset.mpr betweenIn, beyond⟩)
  exact absurd inside.2 most.not_gt

/-- Stored hashes that lead somewhere: no two rows have one hash, and a row is chained to nothing
or to an older row. -/
structure Rooted (rows : List AuditRow) (age : AuditRow → Nat) : Prop where
  distinct : (rows.map fun row => row.id).Nodup
  hashed : ∀ row ∈ rows, row.hash ≠ ""
  unique : ∀ former ∈ rows, ∀ latter ∈ rows, former.hash = latter.hash → former = latter
  older : ∀ row ∈ rows, row.prevHash ≠ "" →
    ∃ other ∈ rows, other.hash = row.prevHash ∧ age other < age row

theorem Rooted.age_lt {age : AuditRow → Nat} (rooted : Rooted rows age)
    (sound : Sound sha256 rows tenantID) {former latter : AuditRow} (formerIn : former ∈ rows)
    (latterIn : latter ∈ rows) (here : latter.tenantID = tenantID) (below : Below former latter) :
    age former < age latter := by
  induction years : age latter using Nat.strong_induction_on generalizing latter with
  | _ value hypothesis =>
    obtain ⟨middle, middleIn, middleBelow, apart⟩ :=
      exists_predecessor ⟨former, formerIn, below⟩
    have link := sound.links middle middleIn latter latterIn (middleBelow.1.trans here)
      middleBelow apart
    obtain ⟨older, olderIn, same, younger⟩ :=
      rooted.older latter latterIn (link ▸ rooted.hashed middle middleIn)
    rw [rooted.unique older olderIn middle middleIn (same.trans link), years] at younger
    rcases lt_trichotomy former.rank middle.rank with less | equal | more
    · have earlier : Below former middle := ⟨below.1.trans middleBelow.1.symm, less⟩
      exact (hypothesis _ younger middleIn (middleBelow.1.trans here) earlier rfl).trans
        younger
    · have same : former = middle := List.inj_on_of_nodup_map rooted.distinct formerIn middleIn
        (Prod.mk.inj (toLex.injective equal)).2
      rw [same]
      exact younger
    · exact absurd below (apart former formerIn ⟨middleBelow.1.trans below.1.symm, more⟩)

theorem rank_ne_of_id_ne {former latter : AuditRow} (different : former.id ≠ latter.id) :
    former.rank ≠ latter.rank :=
  fun same => different (Prod.mk.inj (toLex.injective same)).2

theorem Rooted.rank_lt_iff {age : AuditRow → Nat} (rooted : Rooted rows age)
    (sound : Sound sha256 rows tenantID) {former latter : AuditRow} (formerIn : former ∈ rows)
    (latterIn : latter ∈ rows) (formerHere : former.tenantID = tenantID)
    (latterHere : latter.tenantID = tenantID) (different : former.id ≠ latter.id) :
    former.rank < latter.rank ↔ age former < age latter := by
  constructor
  · intro less
    exact rooted.age_lt sound formerIn latterIn latterHere ⟨formerHere.trans latterHere.symm, less⟩
  · intro older
    by_contra notLess
    have more := lt_of_le_of_ne (not_lt.mp notLess) (rank_ne_of_id_ne different).symm
    have younger := rooted.age_lt sound latterIn formerIn formerHere
      ⟨latterHere.trans formerHere.symm, more⟩
    exact lt_asymm older younger

/-! ### Rows as Insert left them -/

theorem Inserted.hashed (inserted : Inserted sha256 rows) {row : AuditRow} (member : row ∈ rows) :
    row.hash ≠ "" := by
  rw [inserted.hashes row member]
  exact encodeToString_ne_empty _

theorem Inserted.newline_notMem_prevHash (inserted : Inserted sha256 rows) {row : AuditRow}
    (member : row ∈ rows) : '\n' ∉ row.prevHash.toList := by
  rcases inserted.chained row member with empty | ⟨older, found, -, hash, -⟩
  · rw [empty]
    exact List.not_mem_nil
  · rw [← hash, inserted.hashes older found]
    exact newline_notMem_encodeToString _

theorem Inserted.unique (inserted : Inserted sha256 rows) (collisionFree : NoCollision sha256 rows)
    {former latter : AuditRow} (formerIn : former ∈ rows) (latterIn : latter ∈ rows)
    (same : former.hash = latter.hash) : former = latter := by
  rw [inserted.hashes former formerIn, inserted.hashes latter latterIn] at same
  have texts : former.hashedText = latter.hashedText :=
    collisionFree former formerIn latter latterIn (encodeToString_injective same)
  have ids : former.id = latter.id := id_eq_of_hashedText_eq (inserted.identified former formerIn)
    (inserted.identified latter latterIn) (inserted.newline_notMem_prevHash formerIn)
    (inserted.newline_notMem_prevHash latterIn) texts
  exact List.inj_on_of_nodup_map inserted.distinct formerIn latterIn ids

theorem Inserted.rooted (inserted : Inserted sha256 rows) (collisionFree : NoCollision sha256 rows) :
    Rooted rows (age rows) where
  distinct := inserted.distinct
  hashed := fun _ => inserted.hashed
  unique := fun _ formerIn _ latterIn => inserted.unique collisionFree formerIn latterIn
  older := by
    intro row member chained
    rcases inserted.chained row member with empty | ⟨older, found, -, hash, before⟩
    · exact absurd empty chained
    · exact ⟨older, found, hash, before⟩

theorem Inserted.tenantID_eq (inserted : Inserted sha256 rows)
    (collisionFree : NoCollision sha256 rows) {former latter : AuditRow} (formerIn : former ∈ rows)
    (latterIn : latter ∈ rows) (link : latter.prevHash = former.hash) :
    former.tenantID = latter.tenantID := by
  rcases inserted.chained latter latterIn with empty | ⟨older, found, here, hash, -⟩
  · exact absurd (link.symm.trans empty) (inserted.hashed formerIn)
  · rw [← inserted.unique collisionFree found formerIn (hash.trans link)]
    exact here

/-! ### A row taken out -/

theorem not_sound_of_between {row : AuditRow} {left : List AuditRow} {age : AuditRow → Nat}
    (rooted : Rooted rows age) (sound : Sound sha256 rows row.tenantID) (member : row ∈ rows)
    (remains : ∀ other, other.tenantID = row.tenantID →
      (other ∈ left ↔ other ∈ rows ∧ other.id ≠ row.id))
    (between : Between rows row) : ¬ Sound sha256 left row.tenantID := by
  intro soundLeft
  obtain ⟨former, formerIn, formerBelow, formerApart⟩ := exists_predecessor between.1
  obtain ⟨latter, latterIn, latterAbove, latterApart⟩ := exists_successor between.2
  have linked : latter.prevHash = row.hash :=
    sound.links row member latter latterIn rfl latterAbove latterApart
  have formerID : former.id ≠ row.id := fun same => formerBelow.2.ne
    (congrArg AuditRow.rank (List.inj_on_of_nodup_map rooted.distinct formerIn member same))
  have latterID : latter.id ≠ row.id := fun same => latterAbove.2.ne'
    (congrArg AuditRow.rank (List.inj_on_of_nodup_map rooted.distinct latterIn member same))
  have relinked : latter.prevHash = former.hash := by
    refine soundLeft.links former ((remains former formerBelow.1).mpr ⟨formerIn, formerID⟩) latter
      ((remains latter latterAbove.1.symm).mpr ⟨latterIn, latterID⟩) formerBelow.1
      ⟨formerBelow.1.trans latterAbove.1, formerBelow.2.trans latterAbove.2⟩ ?_
    intro other otherIn beyond inside
    have here : other.tenantID = row.tenantID := beyond.1.symm.trans formerBelow.1
    obtain ⟨otherRow, otherID⟩ := (remains other here).mp otherIn
    rcases lt_or_gt_of_ne (rank_ne_of_id_ne otherID) with lower | upper
    · exact formerApart other otherRow beyond ⟨here, lower⟩
    · exact latterApart other otherRow ⟨here.symm, upper⟩ inside
  have same := rooted.unique row member former formerIn (linked.symm.trans relinked)
  exact formerID (same ▸ rfl)

theorem sound_of_not_between {row : AuditRow} {left : List AuditRow}
    (distinct : (rows.map fun row => row.id).Nodup) (sound : Sound sha256 rows row.tenantID)
    (member : row ∈ rows)
    (remains : ∀ other, other.tenantID = row.tenantID →
      (other ∈ left ↔ other ∈ rows ∧ other.id ≠ row.id))
    (outer : ¬ Between rows row) : Sound sha256 left row.tenantID := by
  refine ⟨?_, ?_⟩
  · intro other otherIn here
    exact sound.hashes other ((remains other here).mp otherIn).1 here
  · intro former formerIn latter latterIn here below apart
    have latterHere : latter.tenantID = row.tenantID := below.1.symm.trans here
    have formerRow := ((remains former here).mp formerIn).1
    have latterRow := ((remains latter latterHere).mp latterIn).1
    refine sound.links former formerRow latter latterRow here below ?_
    intro other otherIn beyond inside
    have otherHere : other.tenantID = row.tenantID := beyond.1.symm.trans here
    by_cases removed : other.id = row.id
    · have same : other = row := List.inj_on_of_nodup_map distinct otherIn member removed
      rw [same] at beyond inside
      exact outer ⟨⟨former, formerRow, beyond⟩, ⟨latter, latterRow, inside⟩⟩
    · exact apart other ((remains other otherHere).mpr ⟨otherIn, removed⟩) beyond inside

/-! ### A row edited -/

section Edited

variable {row edited : AuditRow}

theorem mem_replaceRow (member : row ∈ rows) (edits : Edits row edited) {other : AuditRow} :
    other ∈ replaceRow rows edited ↔ other = edited ∨ other ∈ rows ∧ other.id ≠ row.id := by
  rw [replaceRow, List.mem_map]
  constructor
  · rintro ⟨origin, found, rfl⟩
    by_cases same : origin.id = edited.id
    · rw [if_pos same]
      exact Or.inl rfl
    · rw [if_neg same]
      exact Or.inr ⟨found, fun replaced => same (replaced.trans edits.id.symm)⟩
  · rintro (rfl | ⟨found, kept⟩)
    · exact ⟨row, member, if_pos edits.id.symm⟩
    · exact ⟨other, found, if_neg fun same => kept (same.trans edits.id)⟩

theorem map_id_replaceRow (rows : List AuditRow) (edited : AuditRow) :
    (replaceRow rows edited).map (fun other => other.id) = rows.map fun other => other.id := by
  rw [replaceRow, List.map_map]
  refine List.map_congr_left fun other _ => ?_
  by_cases same : other.id = edited.id
  · exact (congrArg (fun row : AuditRow => row.id) (if_pos same)).trans same.symm
  · exact congrArg (fun row : AuditRow => row.id) (if_neg same)

/-- The row that stood in the table where this one stands. -/
def standing (row other : AuditRow) : AuditRow :=
  if other.id = row.id then row else other

theorem standing_edited (edits : Edits row edited) : standing row edited = row :=
  if_pos edits.id

theorem standing_spec (member : row ∈ rows) (edits : Edits row edited) {other : AuditRow}
    (found : other ∈ replaceRow rows edited) :
    standing row other ∈ rows ∧ (standing row other).id = other.id ∧
      (standing row other).hash = other.hash ∧ (standing row other).prevHash = other.prevHash := by
  rcases (mem_replaceRow member edits).mp found with rfl | ⟨kept, otherID⟩
  · rw [standing_edited edits]
    exact ⟨member, edits.id.symm, edits.hash.symm, edits.prevHash.symm⟩
  · rw [standing, if_neg otherID]
    exact ⟨kept, rfl, rfl, rfl⟩

theorem exists_standing (distinct : (rows.map fun row => row.id).Nodup) (member : row ∈ rows)
    (edits : Edits row edited) {origin : AuditRow} (found : origin ∈ rows) :
    ∃ other ∈ replaceRow rows edited, standing row other = origin := by
  by_cases same : origin.id = row.id
  · rw [List.inj_on_of_nodup_map distinct found member same]
    exact ⟨edited, (mem_replaceRow member edits).mpr (Or.inl rfl), standing_edited edits⟩
  · exact ⟨origin, (mem_replaceRow member edits).mpr (Or.inr ⟨found, same⟩), if_neg same⟩

theorem Rooted.replaceRow (rooted : Rooted rows (age rows)) (member : row ∈ rows)
    (edits : Edits row edited) : Rooted (replaceRow rows edited) (age rows) := by
  have distinct : ((MqConnector.replaceRow rows edited).map fun row => row.id).Nodup :=
    (map_id_replaceRow rows edited).symm ▸ rooted.distinct
  refine ⟨distinct, ?_, ?_, ?_⟩
  · intro other found
    obtain ⟨originIn, -, hash, -⟩ := standing_spec member edits found
    exact hash ▸ rooted.hashed _ originIn
  · intro former formerIn latter latterIn same
    obtain ⟨oneIn, oneID, oneHash, -⟩ := standing_spec member edits formerIn
    obtain ⟨twoIn, twoID, twoHash, -⟩ := standing_spec member edits latterIn
    have origins := rooted.unique _ oneIn _ twoIn (oneHash.trans (same.trans twoHash.symm))
    exact List.inj_on_of_nodup_map distinct formerIn latterIn (oneID.symm.trans (origins ▸ twoID))
  · intro other found chained
    obtain ⟨originIn, originID, -, originPrev⟩ := standing_spec member edits found
    obtain ⟨older, olderIn, hash, before⟩ := rooted.older _ originIn (originPrev ▸ chained)
    obtain ⟨image, imageIn, rfl⟩ := exists_standing rooted.distinct member edits olderIn
    obtain ⟨-, imageID, imageHash, -⟩ := standing_spec member edits imageIn
    refine ⟨image, imageIn, imageHash.symm.trans (hash.trans originPrev), ?_⟩
    rw [age, age] at before ⊢
    rwa [← imageID, ← originID]

theorem canonicalAuditBytes_eq_of_sound (inserted : Inserted sha256 rows) (member : row ∈ rows)
    (edits : Edits row edited) (collisionFree : NoCollision sha256 (edited :: rows))
    (sound : Sound sha256 (replaceRow rows edited) edited.tenantID) :
    edited.canonicalAuditBytes = row.canonicalAuditBytes := by
  have hash := sound.hashes edited ((mem_replaceRow member edits).mpr (Or.inl rfl)) rfl
  rw [edits.hash, inserted.hashes row member] at hash
  have texts : edited.hashedText = row.hashedText := by
    refine collisionFree edited List.mem_cons_self row (List.mem_cons_of_mem _ member) ?_
    exact (encodeToString_injective hash).symm
  rw [AuditRow.hashedText, AuditRow.hashedText, edits.prevHash] at texts
  exact String.append_right_inj _ |>.mp texts

theorem hashes_replaceRow (inserted : Inserted sha256 rows) (member : row ∈ rows)
    (edits : Edits row edited)
    (unchanged : edited.canonicalAuditBytes = row.canonicalAuditBytes) {other : AuditRow}
    (found : other ∈ replaceRow rows edited) :
    other.hash = computeAuditHash sha256 other.prevHash other := by
  rcases (mem_replaceRow member edits).mp found with rfl | ⟨kept, -⟩
  · rw [edits.hash, inserted.hashes row member, computeAuditHash, computeAuditHash, unchanged,
      edits.prevHash]
  · exact inserted.hashes other kept

/-- The edited row stands between the same rows of its tenant as before. -/
def KeepsPlace (rows : List AuditRow) (row edited : AuditRow) : Prop :=
  ∀ other ∈ rows, other.tenantID = row.tenantID → other ≠ row →
    (other.rank < row.rank ↔ other.rank < edited.rank)

theorem KeepsPlace.below_iff (keeps : KeepsPlace rows row edited) (member : row ∈ rows)
    (edits : Edits row edited) (here : edited.tenantID = row.tenantID) {former latter : AuditRow}
    (formerIn : former ∈ replaceRow rows edited) (latterIn : latter ∈ replaceRow rows edited) :
    Below former latter ↔ Below (standing row former) (standing row latter) := by
  have differs : ∀ {other : AuditRow}, other.id ≠ row.id → other ≠ row :=
    fun otherID same => otherID (same ▸ rfl)
  rcases (mem_replaceRow member edits).mp formerIn with rfl | ⟨formerRow, formerID⟩
  · rw [standing_edited edits]
    rcases (mem_replaceRow member edits).mp latterIn with rfl | ⟨latterRow, latterID⟩
    · rw [standing_edited edits]
      exact iff_of_false (fun below => lt_irrefl _ below.2) fun below => lt_irrefl _ below.2
    · rw [standing, if_neg latterID, Below, Below, here]
      refine and_congr_right fun same => ?_
      have editedRank := rank_ne_of_id_ne fun found => latterID (found.trans edits.id)
      rw [← not_le, ← not_le, le_iff_lt_or_eq, le_iff_lt_or_eq,
        keeps latter latterRow same.symm (differs latterID), or_iff_left editedRank,
        or_iff_left (rank_ne_of_id_ne latterID)]
  · rw [standing, if_neg formerID]
    rcases (mem_replaceRow member edits).mp latterIn with rfl | ⟨-, latterID⟩
    · rw [standing_edited edits, Below, Below, here]
      exact and_congr_right fun same => (keeps former formerRow same (differs formerID)).symm
    · rw [standing, if_neg latterID]

theorem sound_replaceRow_iff_keepsPlace (inserted : Inserted sha256 rows) (member : row ∈ rows)
    (edits : Edits row edited) (collisionFree : NoCollision sha256 rows)
    (sound : Sound sha256 rows row.tenantID)
    (unchanged : edited.canonicalAuditBytes = row.canonicalAuditBytes)
    (here : edited.tenantID = row.tenantID) :
    Sound sha256 (replaceRow rows edited) row.tenantID ↔ KeepsPlace rows row edited := by
  have rooted := inserted.rooted collisionFree
  constructor
  · -- both before and after, the order of the walk is the order of the ages
    intro soundAfter other found otherHere different
    have otherID : other.id ≠ row.id := fun same =>
      different (List.inj_on_of_nodup_map rooted.distinct found member same)
    have before := rooted.rank_lt_iff sound found member otherHere rfl otherID
    have after := (rooted.replaceRow member edits).rank_lt_iff soundAfter
      ((mem_replaceRow member edits).mpr (Or.inr ⟨found, otherID⟩))
      ((mem_replaceRow member edits).mpr (Or.inl rfl)) otherHere here
      fun same => otherID (same.trans edits.id)
    have sameAge : age rows edited = age rows row := by rw [age, age, edits.id]
    rw [before, after, sameAge]
  · intro keeps
    refine ⟨fun other found _ => hashes_replaceRow inserted member edits unchanged found, ?_⟩
    intro former formerIn latter latterIn formerHere below apart
    obtain ⟨formerRow, -, formerHash, -⟩ := standing_spec member edits formerIn
    obtain ⟨latterRow, -, -, latterPrev⟩ := standing_spec member edits latterIn
    have belowBefore := (keeps.below_iff member edits here formerIn latterIn).mp below
    have formerBefore : (standing row former).tenantID = row.tenantID := by
      by_cases same : former.id = row.id
      · rw [standing, if_pos same]
      · rw [standing, if_neg same, formerHere]
    rw [← latterPrev, ← formerHash]
    refine sound.links _ formerRow _ latterRow formerBefore belowBefore ?_
    intro other found beyond inside
    obtain ⟨image, imageIn, rfl⟩ := exists_standing rooted.distinct member edits found
    exact apart image imageIn ((keeps.below_iff member edits here formerIn imageIn).mpr beyond)
      ((keeps.below_iff member edits here imageIn latterIn).mpr inside)

theorem sound_replaceRow_iff_alone (inserted : Inserted sha256 rows) (member : row ∈ rows)
    (edits : Edits row edited) (collisionFree : NoCollision sha256 rows)
    (unchanged : edited.canonicalAuditBytes = row.canonicalAuditBytes)
    (away : edited.tenantID ≠ row.tenantID) :
    Sound sha256 (replaceRow rows edited) edited.tenantID ↔
      ¬ ∃ other ∈ rows, other.tenantID = edited.tenantID := by
  have edited_mem : edited ∈ replaceRow rows edited := (mem_replaceRow member edits).mpr (Or.inl rfl)
  -- a row of the other tenant stands where it stood
  have resident : ∀ other ∈ replaceRow rows edited, other ≠ edited → other ∈ rows := by
    intro other found different
    exact (((mem_replaceRow member edits).mp found).resolve_left different).1
  constructor
  · rintro sound ⟨other, found, there⟩
    have otherID : other.id ≠ row.id := by
      intro same
      rw [List.inj_on_of_nodup_map inserted.distinct found member same] at there
      exact away there.symm
    have otherIn : other ∈ replaceRow rows edited :=
      (mem_replaceRow member edits).mpr (Or.inr ⟨found, otherID⟩)
    by_cases lower : ∃ former ∈ replaceRow rows edited, Below former edited
    · obtain ⟨former, formerIn, below, apart⟩ := exists_predecessor lower
      have link := sound.links former formerIn edited edited_mem below.1 below apart
      have formerRow := resident former formerIn fun same => below.2.ne (same ▸ rfl)
      have same := inserted.tenantID_eq collisionFree formerRow member (edits.prevHash.symm.trans link)
      exact away (below.1.symm.trans same)
    · have upper : Below edited other := by
        refine ⟨there.symm, lt_of_le_of_ne (not_lt.mp fun less => ?_) ?_⟩
        · exact lower ⟨other, otherIn, there, less⟩
        · exact (rank_ne_of_id_ne fun same => otherID (same.trans edits.id)).symm
      obtain ⟨latter, latterIn, below, apart⟩ := exists_successor ⟨other, otherIn, upper⟩
      have link := sound.links edited edited_mem latter latterIn rfl below apart
      have latterRow := resident latter latterIn fun same => below.2.ne (same ▸ rfl)
      have same := inserted.tenantID_eq collisionFree member latterRow (link.trans edits.hash)
      exact away (below.1.trans same.symm)
  · intro alone
    refine ⟨fun other found _ => hashes_replaceRow inserted member edits unchanged found, ?_⟩
    intro former formerIn latter latterIn there below _
    have only : ∀ other ∈ replaceRow rows edited, other.tenantID = edited.tenantID →
        other = edited := by
      intro other found otherThere
      by_contra different
      exact alone ⟨other, resident other found different, otherThere⟩
    have latterEdited := only latter latterIn (below.1.symm.trans there)
    rw [only former formerIn there, latterEdited] at below
    exact absurd below.2 (lt_irrefl _)

/-- When an edited row is reported. -/
theorem reportsBroken_replaceRow_iff (inserted : Inserted sha256 rows)
    (verified : VerifiesAll sha256 rows) (member : row ∈ rows) (edits : Edits row edited)
    (collisionFree : NoCollision sha256 (edited :: rows)) :
    (ReportsBroken sha256 (replaceRow rows edited) row.tenantID ∨
      ReportsBroken sha256 (replaceRow rows edited) edited.tenantID) ↔ Shows rows row edited := by
  have among : NoCollision sha256 rows := fun former formerIn latter latterIn =>
    collisionFree former (List.mem_cons_of_mem _ formerIn) latter (List.mem_cons_of_mem _ latterIn)
  have rooted := (inserted.rooted among).replaceRow member edits
  have sound := sound_of_verifiesAll inserted.distinct (fun _ => inserted.hashed) verified
    row.tenantID
  rw [reportsBroken_iff rooted.distinct rooted.hashed, reportsBroken_iff rooted.distinct rooted.hashed,
    Shows]
  by_cases unchanged : edited.canonicalAuditBytes = row.canonicalAuditBytes
  · by_cases here : edited.tenantID = row.tenantID
    · rw [here, or_self, sound_replaceRow_iff_keepsPlace inserted member edits among sound unchanged
        here, KeepsPlace]
      simp only [unchanged, ne_eq, not_true_eq_false, true_and, false_and, or_false, false_or,
        not_forall, exists_prop]
    · have remains : ∀ other, other.tenantID = row.tenantID →
          (other ∈ replaceRow rows edited ↔ other ∈ rows ∧ other.id ≠ row.id) := by
        intro other otherHere
        rw [mem_replaceRow member edits]
        exact or_iff_right fun same => here (same ▸ otherHere)
      have departed : ¬ Sound sha256 (replaceRow rows edited) row.tenantID ↔ Between rows row := by
        constructor
        · intro unsound
          by_contra outer
          exact unsound (sound_of_not_between inserted.distinct sound member remains outer)
        · exact not_sound_of_between (inserted.rooted among) sound member remains
      rw [departed, sound_replaceRow_iff_alone inserted member edits among unchanged here, not_not]
      simp only [unchanged, here, ne_eq, not_true_eq_false, not_false_eq_true, true_and, false_and,
        false_or]
  · have unsound : ¬ Sound sha256 (replaceRow rows edited) edited.tenantID := fun soundAfter =>
      unchanged (canonicalAuditBytes_eq_of_sound inserted member edits collisionFree soundAfter)
    exact iff_of_true (Or.inr unsound) (Or.inl unchanged)

end Edited

/-- A row that is dropped between two others is reported. -/
theorem reportsBroken_dropRow (inserted : Inserted sha256 rows) (verified : VerifiesAll sha256 rows)
    {row : AuditRow} (member : row ∈ rows) (collisionFree : NoCollision sha256 rows)
    (between : Between rows row) : ReportsBroken sha256 (dropRow rows row) row.tenantID := by
  have remains : ∀ other, other ∈ dropRow rows row ↔ other ∈ rows ∧ other.id ≠ row.id := by
    intro other
    rw [dropRow, List.mem_filter, decide_eq_true_iff]
  have distinct : ((dropRow rows row).map fun other => other.id).Nodup :=
    inserted.distinct.sublist (List.filter_sublist.map _)
  have sound := sound_of_verifiesAll inserted.distinct (fun _ => inserted.hashed) verified
    row.tenantID
  rw [reportsBroken_iff distinct fun other found => inserted.hashed ((remains other).mp found).1]
  exact not_sound_of_between (inserted.rooted collisionFree) sound member (fun other _ => remains other)
    between

end Links

/-! ### Tamper evidence -/

/-- The result: on every log built by `Insert` that verifies, an edit of a row is reported for the
tenant of the row or its new tenant exactly under the condition, and the deletion of a row between
two others of its tenant always is. -/
theorem AuditState.tampering_reported_iff_shows (sha256 : String → Fin 32 → UInt8)
    (state : AuditState) (reached : Runs.Reaches (AuditState.step sha256) Inserts {} state)
    (verified : VerifiesAll sha256 state.rows) (row : AuditRow) (member : row ∈ state.rows) :
    (∀ edited, Edits row edited → NoCollision sha256 (edited :: state.rows) →
      ((ReportsBroken sha256 (replaceRow state.rows edited) row.tenantID ∨
        ReportsBroken sha256 (replaceRow state.rows edited) edited.tenantID) ↔
        Shows state.rows row edited)) ∧
    (NoCollision sha256 state.rows → Between state.rows row →
      ReportsBroken sha256 (dropRow state.rows row) row.tenantID) := by
  have inserted : Inserted sha256 state.rows := inserted_of_reaches reached
  refine ⟨?_, ?_⟩
  · intro edited edits collisionFree
    exact reportsBroken_replaceRow_iff inserted verified member edits collisionFree
  · intro collisionFree between
    exact reportsBroken_dropRow inserted verified member collisionFree between

/-! ### A line feed moved -/

theorem AuditState.reaches_insert {sha256 : String → Fin 32 → UInt8} {state : AuditState}
    (caller : Nat) (reached : Runs.Reaches (AuditState.step sha256) Inserts {} state)
    (free : state.chainMu = none) (idle : state.callers caller = .idle) {row : AuditRow} (now : Int)
    (identified : IsUUID row.id) (complete : row.complete "" now = row)
    (fresh : ∀ other ∈ state.rows, other.id ≠ row.id) :
    ∃ after, Runs.Reaches (AuditState.step sha256) Inserts {} after ∧
      after.rows = state.rows ++ [row.chained sha256 ((chainHead state.rows row.tenantID).getD "")] ∧
      after.chainMu = none ∧ after.callers caller = .idle := by
  have permitted : state.Inserts (.call caller row "" now) := by
    show IsUUID (row.complete "" now).id
    rw [complete]
    exact identified
  have called : state.step sha256 (.call caller row "" now) =
      some (state.setCaller caller (.fixed row)) := by
    simp only [step, idle, complete]
  obtain ⟨middle, headed, rows, holds⟩ : ∃ middle,
      (state.setCaller caller (.fixed row)).step sha256 (.head caller true) = some middle ∧
      middle.rows = state.rows ∧
      middle.callers caller = .headed row ((chainHead state.rows row.tenantID).getD "") := by
    simp only [step, setCaller, Function.update_self, free, if_true]
    exact ⟨_, rfl, rfl, Function.update_self _ _ _⟩
  obtain ⟨after, written, more, released, done⟩ : ∃ after,
      middle.step sha256 (.write caller true) = some after ∧
      after.rows = state.rows ++ [row.chained sha256 ((chainHead state.rows row.tenantID).getD "")] ∧
      after.chainMu = none ∧ after.callers caller = .idle := by
    simp only [step, holds, rows, true_and, if_pos fresh]
    exact ⟨_, rfl, rfl, rfl, Function.update_self _ _ _⟩
  have reachedMiddle := (reached.next permitted called).next
    (show Inserts _ (.head caller true) from trivial) headed
  exact ⟨after, reachedMiddle.next (show Inserts _ (.write caller true) from trivial) written, more,
    released, done⟩

/-- A row of the tenant `t`. -/
def sampleRow (actor actorSub : String) : AuditRow where
  id := "0b9c3c52-6d0e-4a55-9d0c-1f2e3a4b5c61"
  tenantID := "t"
  actor := actor
  actorSub := actorSub
  action := "POST"
  instant := 1

theorem hashed_chained (sha256 : String → Fin 32 → UInt8) (row : AuditRow) (prev : String) :
    ∀ other ∈ [row.chained sha256 prev], other.hash ≠ "" := by
  intro other member
  rw [List.mem_singleton.mp member]
  exact encodeToString_ne_empty _

theorem reaches_sampleRow (sha256 : String → Fin 32 → UInt8) (actor actorSub : String) :
    ∃ state, Runs.Reaches (AuditState.step sha256) AuditState.Inserts {} state ∧
      state.rows = [(sampleRow actor actorSub).chained sha256 ""] ∧ VerifiesAll sha256 state.rows := by
  have identified : IsUUID (sampleRow actor actorSub).id := by
    show IsUUID "0b9c3c52-6d0e-4a55-9d0c-1f2e3a4b5c61"
    decide
  have complete : (sampleRow actor actorSub).complete "" 0 = sampleRow actor actorSub := rfl
  obtain ⟨state, reached, rows, -⟩ := AuditState.reaches_insert 0
    (.start : Runs.Reaches (AuditState.step sha256) AuditState.Inserts {} {}) rfl rfl 0 identified
    complete fun _ member => absurd member List.not_mem_nil
  have only : state.rows = [(sampleRow actor actorSub).chained sha256 ""] := rows
  refine ⟨state, reached, only, ?_⟩
  rw [only]
  exact verifiesAll_of_sound (List.nodup_singleton _) (hashed_chained sha256 _ _)
    (sound_singleton rfl)

def digestOf (value : Nat) (index : Fin 32) : UInt8 :=
  UInt8.ofNat (value / 256 ^ (31 - index.val))

/-- SHA-256 on the texts of a row and of the row with another actor. -/
def sampleSha256 (text : String) : Fin 32 → UInt8 :=
  if text = "" ++ (sampleRow "ann" "u1").canonicalAuditBytes then
    digestOf 0xb0b1ced409b0333b6be0e25aaebed1b54b53c8c0c4ead01304e01d479f71f84a
  else if text = "" ++ (sampleRow "eve" "u1").canonicalAuditBytes then
    digestOf 0xffdf7ced7100ab1669eb8a9c69f8e673c619869516062223b11762b525b7a7d4
  else fun _ => 0

/-- Another actor is written over the one in the log: `Verify` reports the tenant. -/
theorem replaced_actor_reported :
    ∃ state, Runs.Reaches (AuditState.step sampleSha256) AuditState.Inserts {} state ∧
      VerifiesAll sampleSha256 state.rows ∧ ∃ row ∈ state.rows, ∃ edited, Edits row edited ∧
      (ReportsBroken sampleSha256 (replaceRow state.rows edited) row.tenantID ∨
        ReportsBroken sampleSha256 (replaceRow state.rows edited) edited.tenantID) := by
  obtain ⟨state, reached, only, verified⟩ := reaches_sampleRow sampleSha256 "ann" "u1"
  let row := (sampleRow "ann" "u1").chained sampleSha256 ""
  let edited : AuditRow := { sampleRow "eve" "u1" with hash := row.hash, prevHash := "" }
  have member : row ∈ state.rows := only ▸ List.mem_singleton_self _
  have edits : Edits row edited := by
    refine ⟨rfl, rfl, rfl, fun same => ?_⟩
    have actors : "eve" = "ann" := congrArg (fun other : AuditRow => other.actor) same
    exact absurd actors (by decide)
  have texts : edited.hashedText ≠ row.hashedText := by
    show "" ++ (sampleRow "eve" "u1").canonicalAuditBytes ≠
      "" ++ (sampleRow "ann" "u1").canonicalAuditBytes
    decide
  have digests : sampleSha256 edited.hashedText ≠ sampleSha256 row.hashedText := by
    have editedDigest : sampleSha256 edited.hashedText = digestOf
        0xffdf7ced7100ab1669eb8a9c69f8e673c619869516062223b11762b525b7a7d4 :=
      (if_neg texts).trans (if_pos rfl)
    have rowDigest : sampleSha256 row.hashedText = digestOf
        0xb0b1ced409b0333b6be0e25aaebed1b54b53c8c0c4ead01304e01d479f71f84a := if_pos rfl
    rw [editedDigest, rowDigest]
    intro same
    exact absurd (congrFun same 0) (by decide)
  have collisionFree : NoCollision sampleSha256 (edited :: state.rows) := by
    intro former formerIn latter latterIn same
    rw [only] at formerIn latterIn
    rcases List.mem_pair.mp formerIn with rfl | rfl
    · rcases List.mem_pair.mp latterIn with rfl | rfl
      · rfl
      · exact absurd same digests
    · rcases List.mem_pair.mp latterIn with rfl | rfl
      · exact absurd same.symm digests
      · rfl
  have reported := (AuditState.tampering_reported_iff_shows sampleSha256 state reached verified row
    member).1 edited edits collisionFree
  refine ⟨state, reached, verified, row, member, edited, edits, reported.mpr (Or.inl fun same => ?_)⟩
  exact texts (congrArg ("" ++ ·) same)

/-- A caller writes a row, and the row is then edited, the stored hashes left as they are: whatever
the hash function, `Verify` reports no tenant broken. -/
def Unnoticed (row edited : AuditRow) : Prop :=
  ∀ sha256, ∃ state, Runs.Reaches (AuditState.step sha256) AuditState.Inserts {} state ∧
    VerifiesAll sha256 state.rows ∧ ∃ stored ∈ state.rows, stored = row.chained sha256 "" ∧
    Edits stored (edited.chained sha256 "") ∧
    ∀ tenantID, ¬ ReportsBroken sha256 (replaceRow state.rows (edited.chained sha256 "")) tenantID

/-- The name of an actor is cut at its line feed, and the rest goes to the subject. -/
theorem moved_line_feed_unnoticed :
    Unnoticed (sampleRow "ann\nadmin" "u1") (sampleRow "ann" "admin\nu1") := by
  intro sha256
  obtain ⟨state, reached, only, verified⟩ := reaches_sampleRow sha256 "ann\nadmin" "u1"
  have text : (sampleRow "ann" "admin\nu1").canonicalAuditBytes =
      (sampleRow "ann\nadmin" "u1").canonicalAuditBytes := by
    decide
  have edits : Edits ((sampleRow "ann\nadmin" "u1").chained sha256 "")
      ((sampleRow "ann" "admin\nu1").chained sha256 "") := by
    refine ⟨rfl, ?_, rfl, ?_⟩
    · show computeAuditHash sha256 "" _ = computeAuditHash sha256 "" _
      rw [computeAuditHash, computeAuditHash, text]
    · intro same
      have actors : "ann" = "ann\nadmin" := congrArg (fun other : AuditRow => other.actor) same
      exact absurd actors (by decide)
  have replaced : replaceRow state.rows ((sampleRow "ann" "admin\nu1").chained sha256 "") =
      [(sampleRow "ann" "admin\nu1").chained sha256 ""] := by
    rw [only]
    exact congrArg (fun other => [other]) (if_pos edits.id.symm)
  refine ⟨state, reached, verified, _, only ▸ List.mem_singleton_self _, rfl, edits, ?_⟩
  intro tenantID
  have distinct : ([(sampleRow "ann" "admin\nu1").chained sha256 ""].map fun row => row.id).Nodup :=
    List.nodup_singleton _
  rw [replaced, reportsBroken_iff distinct (hashed_chained sha256 _ _), not_not]
  exact sound_singleton rfl tenantID

end MqConnector
