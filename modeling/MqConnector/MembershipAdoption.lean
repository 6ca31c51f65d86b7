/-
This file proves when the adoption in `ListByUser` is safe.

A login claims the rows of its name and those of its bootstrap key. The first statement
removes a seeded row wherever a row of the name stands in its tenant, whatever the two roles
are, and the last one moves all rows of the name to one key. So the adoption fails when two
rows of the name share a tenant, and it lowers a role when a seeded row stood above the row
of the name beside it.
-/

import MqConnector.Memberships

namespace MqConnector.Memberships

/-! ### Updates -/

section Updates

variable {table changed : Memberships} {condition : Membership → Bool} {change : Membership → Membership}

theorem eq_of_key_same {first second : Membership} (firstMember : first ∈ table.rows)
    (secondMember : second ∈ table.rows) (tenant : first.tenantID = second.tenantID)
    (subject : first.userSub = second.userSub) : first = second :=
  List.inj_on_of_nodup_map table.keysNodup firstMember secondMember (Prod.ext tenant subject)

theorem eq_of_rows (same : table.rows = changed.rows) : table = changed := by
  cases table
  cases changed
  cases same
  rfl

theorem rows_updateWhere (updated : table.updateWhere condition change = some changed) :
    changed.rows = table.rows.map fun row => if condition row then change row else row := by
  rw [updateWhere] at updated
  split at updated
  · rw [← Option.some.inj updated]
  · cases updated

theorem isSome_updateWhere : (table.updateWhere condition change).isSome ↔
    ∀ first ∈ table.rows, ∀ second ∈ table.rows,
      (if condition first then change first else first).key =
        (if condition second then change second else second).key → first = second := by
  have distinct : table.rows.Nodup := table.keysNodup.of_map
  rw [← List.nodup_map_iff_inj_on distinct, ← Function.comp_def Membership.key, ← List.map_map, updateWhere]
  split
  case isTrue unique => exact iff_of_true rfl unique
  case isFalse shared => exact iff_of_false Bool.false_ne_true shared

end Updates

/-! ### Who is claimed -/

section Adoption

variable (toLower : String → String) (username : String)

/-- The key of the seeded row of a name. -/
def bootstrapKeyOf : String :=
  "bootstrap:" ++ toLower username

/-- A row of the name that is not its seeded row. -/
def Real (row : Membership) : Prop :=
  sqlLower row.username = sqlLower username ∧ row.userSub ≠ bootstrapKeyOf toLower username

instance (row : Membership) : Decidable (Real toLower username row) :=
  inferInstanceAs (Decidable (_ ∧ _))

/-- A row that a login under the name claims: one of the name, or of its bootstrap key. -/
def Claimed (row : Membership) : Prop :=
  sqlLower row.username = sqlLower username ∨ row.userSub = bootstrapKeyOf toLower username

variable {toLower username} {table after : Memberships} {userSub : String}

theorem Real.claimed {row : Membership} (real : Real toLower username row) : Claimed toLower username row :=
  .inl real.1

/-- The rows that an adoption claims. -/
theorem claimed_iff {row : Membership} :
    Claimed toLower username row ↔ Real toLower username row ∨ row.userSub = bootstrapKeyOf toLower username := by
  rw [Claimed, Real]
  by_cases seeded : row.userSub = bootstrapKeyOf toLower username
  · exact iff_of_true (.inr seeded) (.inr seeded)
  · rw [and_iff_left seeded]

/-! ### The four statements -/

theorem mem_cleanBootstrap {row : Membership} :
    row ∈ (table.cleanBootstrap username (bootstrapKeyOf toLower username)).rows ↔
      row ∈ table.rows ∧ ¬ (row.userSub = bootstrapKeyOf toLower username ∧
        ∃ other ∈ table.rows, other.tenantID = row.tenantID ∧ Real toLower username other) := by
  rw [cleanBootstrap, mem_deleteWhere, ← Bool.not_eq_true]
  simp only [Bool.and_eq_true, List.any_eq_true, beq_iff_eq, bne_iff_ne, Real, and_assoc]

theorem mem_renameBootstrap
    (renamed : table.renameBootstrap userSub username (bootstrapKeyOf toLower username) =
    some after) {row : Membership} :
    row ∈ after.rows ↔ row ∈ table.rows ∧ row.userSub ≠ bootstrapKeyOf toLower username ∨
      ∃ seeded ∈ table.rows, seeded.userSub = bootstrapKeyOf toLower username ∧
        row = { seeded with userSub := userSub, username := username } := by
  rw [rows_updateWhere renamed, List.mem_map]
  simp only [beq_iff_eq]
  constructor
  · rintro ⟨former, member, rfl⟩
    split
    case isTrue seeded => exact .inr ⟨former, member, seeded, rfl⟩
    case isFalse real => exact .inl ⟨member, real⟩
  · rintro (⟨member, real⟩ | ⟨seeded, member, key, rfl⟩)
    · exact ⟨row, member, if_neg real⟩
    · exact ⟨seeded, member, if_pos key⟩

theorem mem_adoptStale (adopted : table.adoptStale userSub username = some after) {row : Membership} :
    row ∈ after.rows ↔
      row ∈ table.rows ∧ ¬ (sqlLower row.username = sqlLower username ∧ row.userSub ≠ userSub) ∨
      ∃ stale ∈ table.rows, (sqlLower stale.username = sqlLower username ∧ stale.userSub ≠ userSub) ∧
        row = { stale with userSub := userSub } := by
  rw [rows_updateWhere adopted, List.mem_map]
  simp only [Bool.and_eq_true, beq_iff_eq, bne_iff_ne]
  constructor
  · rintro ⟨former, member, rfl⟩
    split
    case isTrue stale => exact .inr ⟨former, member, stale, rfl⟩
    case isFalse stays => exact .inl ⟨member, stays⟩
  · rintro (⟨member, stays⟩ | ⟨stale, member, moves, rfl⟩)
    · exact ⟨row, member, if_neg stays⟩
    · exact ⟨stale, member, if_pos moves⟩

/-! ### Rows that are not claimed -/

section Others

variable {row : Membership} (aside : ¬ Claimed toLower username row)

include aside

theorem mem_cleanBootstrap_of_aside :
    row ∈ (table.cleanBootstrap username (bootstrapKeyOf toLower username)).rows ↔ row ∈ table.rows := by
  rw [mem_cleanBootstrap]
  exact and_iff_left fun seeded => aside (.inr seeded.1)

theorem mem_renameBootstrap_of_aside
    (renamed : table.renameBootstrap userSub username (bootstrapKeyOf toLower username) = some after) :
    row ∈ after.rows ↔ row ∈ table.rows := by
  rw [mem_renameBootstrap renamed, and_iff_left fun seeded => aside (.inr seeded)]
  refine or_iff_left ?_
  rintro ⟨seeded, -, -, rfl⟩
  exact aside (.inl rfl)

theorem mem_dropStale_of_aside : row ∈ (table.dropStale userSub username).rows ↔ row ∈ table.rows := by
  rw [dropStale, mem_deleteWhere]
  refine and_iff_left ?_
  rw [beq_false_of_ne fun name => aside (.inl name), Bool.false_and, Bool.false_and]

theorem mem_adoptStale_of_aside (adopted : table.adoptStale userSub username = some after) :
    row ∈ after.rows ↔ row ∈ table.rows := by
  rw [mem_adoptStale adopted, and_iff_left fun stale => aside (.inl stale.1)]
  refine or_iff_left ?_
  rintro ⟨stale, -, ⟨name, -⟩, rfl⟩
  exact aside (.inl name)

theorem mem_adoptBootstrap_of_aside (fails : LookupStatement → Bool) :
    row ∈ (table.adoptBootstrap toLower fails userSub username).2.rows ↔ row ∈ table.rows := by
  have cleaned := @mem_cleanBootstrap_of_aside _ _ table _ aside
  rw [adoptBootstrap]
  split
  · rfl
  split
  · rfl
  split
  · rfl
  split
  · rfl
  dsimp only
  split
  · exact cleaned
  rename_i renamed renames
  have moved := (mem_renameBootstrap_of_aside aside renames).trans cleaned
  split
  · exact cleaned
  split
  · exact moved
  have dropped := (@mem_dropStale_of_aside _ _ renamed userSub _ aside).trans moved
  split
  · exact dropped
  rename_i adopted adopts
  split
  · exact dropped
  · exact (mem_adoptStale_of_aside aside adopts).trans dropped

theorem mem_listByUser_of_aside (fails : LookupStatement → Bool) :
    row ∈ (table.listByUser toLower fails userSub username).2.rows ↔ row ∈ table.rows := by
  have adopted := @mem_adoptBootstrap_of_aside _ _ table userSub _ aside fails
  rw [listByUser]
  split
  · rfl
  split
  · dsimp only
    split
    · exact adopted
    · exact adopted
  · rfl

end Others

/-! ### A login whose subject has no row -/

section NewSubject

/-- The rows after an adoption that finishes: those that are not claimed, the rows of the name under the
subject, and each seeded row without one of the name beside it. -/
def Adopted (toLower : String → String) (username userSub : String) (table after : Memberships) : Prop :=
  ∀ row, row ∈ after.rows ↔ row ∈ table.rows ∧ ¬ Claimed toLower username row ∨
    (∃ real ∈ table.rows, Real toLower username real ∧ row = { real with userSub := userSub }) ∨
    ∃ seeded ∈ table.rows, seeded.userSub = bootstrapKeyOf toLower username ∧
      (∀ other ∈ table.rows, other.tenantID = seeded.tenantID → ¬ Real toLower username other) ∧
      row = { seeded with userSub := userSub, username := username }

/-- No tenant has two rows of the name beside the seeded one. -/
def OneReal (toLower : String → String) (username : String) (table : Memberships) : Prop :=
  ∀ first ∈ table.rows, ∀ second ∈ table.rows, Real toLower username first → Real toLower username second →
    first.tenantID = second.tenantID → first = second

instance : Decidable (OneReal toLower username table) :=
  inferInstanceAs (Decidable (∀ first ∈ table.rows, ∀ second ∈ table.rows, _))

variable {renamed : Memberships} (unknown : ∀ row ∈ table.rows, row.userSub ≠ userSub)

include unknown

theorem renameBootstrap_succeeds :
    ∃ renamed, table.renameBootstrap userSub username (bootstrapKeyOf toLower username) = some renamed := by
  rw [← Option.isSome_iff_exists, renameBootstrap, isSome_updateWhere]
  intro first firstMember second secondMember same
  simp only [beq_iff_eq] at same
  split at same <;> split at same <;> obtain ⟨tenant, subject⟩ := Prod.mk.inj same
  case isTrue.isTrue firstSeeded secondSeeded =>
    exact eq_of_key_same firstMember secondMember tenant (firstSeeded.trans secondSeeded.symm)
  case isTrue.isFalse => exact absurd subject.symm (unknown second secondMember)
  case isFalse.isTrue => exact absurd subject (unknown first firstMember)
  case isFalse.isFalse => exact eq_of_key_same firstMember secondMember tenant subject

omit unknown in
theorem mem_renamed
    (renames : (table.cleanBootstrap username (bootstrapKeyOf toLower username)).renameBootstrap userSub
      username (bootstrapKeyOf toLower username) = some renamed) {row : Membership} :
    row ∈ renamed.rows ↔ row ∈ table.rows ∧ row.userSub ≠ bootstrapKeyOf toLower username ∨
      ∃ seeded ∈ table.rows, seeded.userSub = bootstrapKeyOf toLower username ∧
        (∀ other ∈ table.rows, other.tenantID = seeded.tenantID → ¬ Real toLower username other) ∧
        row = { seeded with userSub := userSub, username := username } := by
  rw [mem_renameBootstrap renames, mem_cleanBootstrap]
  refine or_congr ⟨fun ⟨⟨member, _⟩, real⟩ => ⟨member, real⟩,
    fun ⟨member, real⟩ => ⟨⟨member, fun seeded => real seeded.1⟩, real⟩⟩ ⟨?_, ?_⟩
  · rintro ⟨seeded, member, key, rfl⟩
    obtain ⟨before, alone⟩ := mem_cleanBootstrap.mp member
    exact ⟨seeded, before, key, fun other among tenant real => alone ⟨key, other, among, tenant, real⟩, rfl⟩
  · rintro ⟨seeded, before, key, alone, rfl⟩
    refine ⟨seeded, mem_cleanBootstrap.mpr ⟨before, ?_⟩, key, rfl⟩
    rintro ⟨-, other, among, tenant, real⟩
    exact alone other among tenant real

variable (renames : (table.cleanBootstrap username (bootstrapKeyOf toLower username)).renameBootstrap userSub username
  (bootstrapKeyOf toLower username) = some renamed)

include renames

theorem stale_of_mem_renamed {row : Membership} (member : row ∈ renamed.rows)
    (stale : sqlLower row.username = sqlLower username ∧ row.userSub ≠ userSub) :
    row ∈ table.rows ∧ Real toLower username row ∧
      ∀ other ∈ renamed.rows, other.tenantID = row.tenantID → other.userSub ≠ userSub := by
  rcases (mem_renamed renames).mp member with ⟨before, real⟩ | ⟨seeded, -, -, -, rfl⟩
  · refine ⟨before, ⟨stale.1, real⟩, fun other among tenant own => ?_⟩
    rcases (mem_renamed renames).mp among with ⟨otherBefore, -⟩ | ⟨seeded, -, -, alone, rfl⟩
    · exact unknown other otherBefore own
    · exact alone row before tenant.symm ⟨stale.1, real⟩
  · exact absurd rfl stale.2

theorem dropStale_renamed : renamed.dropStale userSub username = renamed := by
  apply eq_of_rows
  rw [dropStale, deleteWhere, List.filter_eq_self]
  intro row member
  rw [Bool.not_eq_true', ← Bool.not_eq_true]
  simp only [Bool.and_eq_true, beq_iff_eq, bne_iff_ne, List.any_eq_true]
  rintro ⟨stale, other, among, tenant, own⟩
  exact (stale_of_mem_renamed unknown renames member stale).2.2 other among tenant own

theorem isSome_adoptStale :
    (renamed.adoptStale userSub username).isSome ↔ OneReal toLower username table := by
  rw [adoptStale, isSome_updateWhere]
  simp only [Bool.and_eq_true, beq_iff_eq, bne_iff_ne]
  constructor
  · intro apart first firstMember second secondMember firstReal secondReal tenant
    have there {row : Membership} (member : row ∈ table.rows) (real : Real toLower username row) : row ∈ renamed.rows :=
      (mem_renamed renames).mpr (.inl ⟨member, real.2⟩)
    refine apart first (there firstMember firstReal) second (there secondMember secondReal) ?_
    rw [if_pos ⟨firstReal.1, unknown first firstMember⟩, if_pos ⟨secondReal.1, unknown second secondMember⟩]
    exact Prod.ext tenant rfl
  · intro one first firstMember second secondMember same
    split at same <;> split at same <;> obtain ⟨tenant, subject⟩ := Prod.mk.inj same
    case isTrue.isTrue firstStale secondStale =>
      obtain ⟨firstBefore, firstReal, -⟩ := stale_of_mem_renamed unknown renames firstMember firstStale
      obtain ⟨secondBefore, secondReal, -⟩ := stale_of_mem_renamed unknown renames secondMember secondStale
      exact one first firstBefore second secondBefore firstReal secondReal tenant
    case isTrue.isFalse firstStale _ =>
      obtain ⟨-, -, alone⟩ := stale_of_mem_renamed unknown renames firstMember firstStale
      exact absurd subject.symm (alone second secondMember tenant.symm)
    case isFalse.isTrue _ secondStale =>
      obtain ⟨-, -, alone⟩ := stale_of_mem_renamed unknown renames secondMember secondStale
      exact absurd subject (alone first firstMember tenant)
    case isFalse.isFalse => exact eq_of_key_same firstMember secondMember tenant subject

theorem adopted_of_adoptStale (adopts : renamed.adoptStale userSub username = some after) :
    Adopted toLower username userSub table after := by
  intro row
  rw [mem_adoptStale adopts]
  constructor
  · rintro (⟨member, stays⟩ | ⟨stale, member, moves, rfl⟩)
    · rcases (mem_renamed renames).mp member with ⟨before, real⟩ | seeded
      · refine .inl ⟨before, ?_⟩
        rintro (name | seeded)
        · exact stays ⟨name, unknown row before⟩
        · exact real seeded
      · exact .inr (.inr seeded)
    · obtain ⟨before, real, -⟩ := stale_of_mem_renamed unknown renames member moves
      exact .inr (.inl ⟨stale, before, real, rfl⟩)
  · rintro (⟨before, aside⟩ | ⟨real, before, isReal, rfl⟩ | seeded)
    · exact .inl ⟨(mem_renamed renames).mpr (.inl ⟨before, fun key => aside (.inr key)⟩), fun stale => aside (.inl stale.1)⟩
    · exact .inr ⟨real, (mem_renamed renames).mpr (.inl ⟨before, isReal.2⟩), ⟨isReal.1, unknown real before⟩, rfl⟩
    · refine .inl ⟨(mem_renamed renames).mpr (.inr seeded), ?_⟩
      obtain ⟨former, -, -, -, rfl⟩ := seeded
      exact fun stale => stale.2 rfl

omit renames

theorem queryByUser_unknown : table.queryByUser userSub = [] := by
  by_contra found
  obtain ⟨row, member, own⟩ := (queryByUser_ne_nil_iff table userSub).mp found
  exact unknown row member own

theorem listByUser_signed (subject : userSub ≠ "") (name : username ≠ "")
    (signed : table.hasBootstrapSignature username = true) :
    (OneReal toLower username table →
      ((table.listByUser toLower (fun _ => false) userSub username).1).isSome ∧
        Adopted toLower username userSub table (table.listByUser toLower (fun _ => false) userSub username).2) ∧
    (¬ OneReal toLower username table →
      (table.listByUser toLower (fun _ => false) userSub username).1 = none) := by
  have cleanedUnknown : ∀ row ∈ (table.cleanBootstrap username (bootstrapKeyOf toLower username)).rows,
      row.userSub ≠ userSub := fun row member => unknown row (mem_cleanBootstrap.mp member).1
  obtain ⟨renamed, renames⟩ := @renameBootstrap_succeeds toLower username _ userSub cleanedUnknown
  have after := dropStale_renamed unknown renames
  have cleaned := renames
  rw [bootstrapKeyOf] at cleaned
  rw [← isSome_adoptStale unknown renames]
  cases adopts : renamed.adoptStale userSub username with
  | none =>
    have ran : table.adoptBootstrap toLower (fun _ => false) userSub username = (false, renamed) := by
      simp only [adoptBootstrap, subject, name, signed, beq_eq_false_iff_ne.mpr, Bool.or_self, Bool.not_true,
        Bool.false_eq_true, if_false, ne_eq, not_false_eq_true, cleaned, after, adopts]
    have looked : table.listByUser toLower (fun _ => false) userSub username = (none, renamed) := by
      simp only [listByUser, queryByUser_unknown unknown, List.isEmpty_nil, bne_iff_ne, ne_eq, name,
        not_false_eq_true, Bool.true_and, Bool.not_false, if_true, Bool.false_eq_true, if_false, Bool.or_false, ran]
    rw [looked]
    exact ⟨fun found => absurd found Bool.false_ne_true, fun _ => rfl⟩
  | some adopted =>
    have ran : table.adoptBootstrap toLower (fun _ => false) userSub username = (true, adopted) := by
      simp only [adoptBootstrap, subject, name, signed, beq_eq_false_iff_ne.mpr, Bool.or_self, Bool.not_true,
        Bool.false_eq_true, if_false, ne_eq, not_false_eq_true, cleaned, after, adopts]
    have looked : table.listByUser toLower (fun _ => false) userSub username =
        (some (adopted.queryByUser userSub), adopted) := by
      simp only [listByUser, queryByUser_unknown unknown, List.isEmpty_nil, bne_iff_ne, ne_eq, name,
        not_false_eq_true, Bool.true_and, Bool.not_true, if_true, Bool.false_eq_true, if_false, Bool.or_false, ran]
    rw [looked]
    exact ⟨fun _ => ⟨rfl, adopted_of_adoptStale unknown renames adopts⟩, fun missing => absurd rfl missing⟩

end NewSubject

/-- Without a signature nothing is adopted. -/
theorem listByUser_unsigned (fails : LookupStatement → Bool)
    (unsigned : userSub = "" ∨ username = "" ∨ table.hasBootstrapSignature username = false) :
    (table.listByUser toLower fails userSub username).2 = table := by
  rw [listByUser]
  split
  · rfl
  split
  case isTrue asks =>
    have kept : (table.adoptBootstrap toLower fails userSub username).2 = table := by
      apply adoptBootstrap_unsigned
      rcases unsigned with subject | rfl | unsigned
      · exact .inl subject
      · simp at asks
      · exact .inr unsigned
    dsimp only
    split <;> exact kept
  case isFalse => rfl

theorem succeeds_of_unsigned (unsigned : table.hasBootstrapSignature username = false) :
    ((table.listByUser toLower (fun _ => false) userSub username).1).isSome := by
  have done : (table.adoptBootstrap toLower (fun _ => false) userSub username).1 = true := by
    rw [adoptBootstrap]
    split
    · rfl
    · rw [if_neg Bool.false_ne_true, unsigned, if_pos (by rfl)]
  rw [listByUser, if_neg Bool.false_ne_true]
  split
  · dsimp only
    rw [done, if_neg (by simp)]
    rfl
  · rfl

/-! ### When an adoption is safe -/

/-- What a lookup of a new subject promises: it does not fail when the database fails no statement for other
reasons; whatever fails, the rows that the name does not claim stay as they are, and all rows do unless a row of
the name owns the default tenant; and otherwise the subject ends with one row in every tenant of a claimed row,
with a role no lower than those claimed there. -/
structure AdoptsSafely (toLower : String → String) (table : Memberships) (userSub username : String) : Prop where
  succeeds : ((table.listByUser toLower (fun _ => false) userSub username).1).isSome
  others : ∀ fails row, ¬ Claimed toLower username row →
    (row ∈ (table.listByUser toLower fails userSub username).2.rows ↔ row ∈ table.rows)
  unsigned : table.hasBootstrapSignature username = false →
    ∀ fails, (table.listByUser toLower fails userSub username).2 = table
  adopted : table.hasBootstrapSignature username = true → ∀ claimed ∈ table.rows, Claimed toLower username claimed →
    ∃ row, (∀ other, other ∈ (table.listByUser toLower (fun _ => false) userSub username).2.rows ∧
        other.tenantID = claimed.tenantID ∧ other.userSub = userSub ↔ other = row) ∧
      ∀ held ∈ table.rows, Claimed toLower username held → held.tenantID = claimed.tenantID →
        held.role.rank ≤ row.role.rank

/-- No row of the name owns the default tenant; or the subject and the name are not empty, no tenant has two rows
of the name beside the seeded one, and no seeded row stands beside a row of the name with a lower role. -/
def Adoptable (toLower : String → String) (table : Memberships) (userSub username : String) : Prop :=
  table.hasBootstrapSignature username = false ∨
    userSub ≠ "" ∧ username ≠ "" ∧ OneReal toLower username table ∧
      ∀ seeded ∈ table.rows, seeded.userSub = bootstrapKeyOf toLower username → ∀ real ∈ table.rows,
        Real toLower username real → real.tenantID = seeded.tenantID → seeded.role.rank ≤ real.role.rank

instance : Decidable (Adoptable toLower table userSub username) :=
  inferInstanceAs (Decidable (_ ∨ _ ∧ _ ∧ _ ∧ ∀ seeded ∈ table.rows, _ → ∀ real ∈ table.rows, _))

theorem exists_claimed (signed : table.hasBootstrapSignature username = true) :
    ∃ row ∈ table.rows, Claimed toLower username row := by
  simp only [hasBootstrapSignature, List.any_eq_true, Bool.and_eq_true, beq_iff_eq] at signed
  obtain ⟨row, member, ⟨name, -⟩, -⟩ := signed
  exact ⟨row, member, .inl name⟩

section Safe

variable (unknown : ∀ row ∈ table.rows, row.userSub ≠ userSub)

include unknown

/-- An adoption gives the real row of a tenant to the user, and adds no other there. -/
theorem adopted_real (adopted : Adopted toLower username userSub table after)
    (one : OneReal toLower username table)
    {real : Membership} (before : real ∈ table.rows) (isReal : Real toLower username real) (other : Membership) :
    other ∈ after.rows ∧ other.tenantID = real.tenantID ∧ other.userSub = userSub ↔
      other = { real with userSub := userSub } := by
  rw [adopted]
  constructor
  · rintro ⟨⟨former, -⟩ | ⟨former, formerBefore, formerReal, rfl⟩ | ⟨seeded, -, -, alone, rfl⟩, tenant, own⟩
    · exact absurd own (unknown other former)
    · rw [one former formerBefore real before formerReal isReal tenant]
    · exact absurd isReal (alone real before tenant.symm)
  · rintro rfl
    exact ⟨.inr (.inl ⟨real, before, isReal, rfl⟩), rfl, rfl⟩

/-- An adoption gives a seeded row without a real one beside it to the user. -/
theorem adopted_seeded (adopted : Adopted toLower username userSub table after) {seeded : Membership}
    (before : seeded ∈ table.rows) (key : seeded.userSub = bootstrapKeyOf toLower username)
    (alone : ∀ other ∈ table.rows, other.tenantID = seeded.tenantID → ¬ Real toLower username other)
    (other : Membership) : other ∈ after.rows ∧ other.tenantID = seeded.tenantID ∧ other.userSub = userSub ↔
      other = { seeded with userSub := userSub, username := username } := by
  rw [adopted]
  constructor
  · rintro ⟨⟨former, -⟩ | ⟨real, realBefore, isReal, rfl⟩ | ⟨former, formerBefore, formerKey, -, rfl⟩, tenant, own⟩
    · exact absurd own (unknown other former)
    · exact absurd isReal (alone real realBefore tenant)
    · rw [eq_of_key_same formerBefore before tenant (formerKey.trans key.symm)]
  · rintro rfl
    exact ⟨.inr (.inr ⟨seeded, before, key, alone, rfl⟩), rfl, rfl⟩

/-- The adoption in a lookup of a subject without rows is safe exactly in the tables that the condition allows. -/
theorem adoption_safe_iff :
    AdoptsSafely toLower table userSub username ↔ Adoptable toLower table userSub username := by
  constructor
  · intro safe
    rw [Adoptable, ← Bool.not_eq_true, or_iff_not_imp_left, not_not]
    intro signed
    obtain ⟨claimed, member, isClaimed⟩ := @exists_claimed toLower _ _ signed
    -- without a subject or a name the table stays as it is, and has no row of the subject
    have asked : ¬ (userSub = "" ∨ username = "") := by
      intro missing
      obtain ⟨row, only, -⟩ := safe.adopted signed claimed member isClaimed
      obtain ⟨there, -, own⟩ := (only row).mpr rfl
      rw [listByUser_unsigned _ (missing.imp_right .inl)] at there
      exact unknown row there own
    obtain ⟨subject, name⟩ := not_or.mp asked
    obtain ⟨finishes, stops⟩ := @listByUser_signed toLower _ _ _ unknown subject name signed
    have one : OneReal toLower username table := by
      by_contra shared
      have found := safe.succeeds
      rw [stops shared] at found
      cases found
    obtain ⟨-, adopted⟩ := finishes one
    refine ⟨subject, name, one, fun seeded seededMember key real realMember isReal tenant => ?_⟩
    obtain ⟨row, only, highest⟩ := safe.adopted signed real realMember isReal.claimed
    have same := (adopted_real unknown adopted one realMember isReal row).mp ((only row).mpr rfl)
    have role := highest seeded seededMember (.inr key) tenant.symm
    rw [same] at role
    exact role
  · rintro (unsigned | ⟨subject, name, one, above⟩)
    · refine ⟨succeeds_of_unsigned unsigned, fun fails row aside => mem_listByUser_of_aside aside fails,
        fun _ fails => listByUser_unsigned fails (.inr (.inr unsigned)), fun signed => ?_⟩
      rw [unsigned] at signed
      cases signed
    · refine ⟨?_, fun fails row aside => mem_listByUser_of_aside aside fails,
        fun unsigned fails => listByUser_unsigned fails (.inr (.inr unsigned)), fun signed claimed member isClaimed => ?_⟩
      · by_cases signed : table.hasBootstrapSignature username = true
        · exact ((listByUser_signed unknown subject name signed).1 one).1
        · exact succeeds_of_unsigned (eq_false_of_ne_true signed)
      · obtain ⟨-, adopted⟩ := (listByUser_signed unknown subject name signed).1 one
        by_cases beside : ∃ real ∈ table.rows, real.tenantID = claimed.tenantID ∧ Real toLower username real
        · obtain ⟨real, realMember, tenant, isReal⟩ := beside
          rw [← tenant]
          refine ⟨_, adopted_real unknown adopted one realMember isReal, fun held heldMember heldClaimed heldTenant => ?_⟩
          rcases claimed_iff.mp heldClaimed with heldReal | key
          · rw [one held heldMember real realMember heldReal isReal heldTenant]
          · exact above held heldMember key real realMember isReal heldTenant.symm
        · have alone : ∀ other ∈ table.rows, other.tenantID = claimed.tenantID → ¬ Real toLower username other :=
            fun other among tenant real => beside ⟨other, among, tenant, real⟩
          have key : claimed.userSub = bootstrapKeyOf toLower username :=
            (claimed_iff.mp isClaimed).resolve_left (alone claimed member rfl)
          refine ⟨_, adopted_seeded unknown adopted member key alone, fun held heldMember heldClaimed heldTenant => ?_⟩
          have heldKey : held.userSub = bootstrapKeyOf toLower username :=
            (claimed_iff.mp heldClaimed).resolve_left (alone held heldMember heldTenant)
          rw [eq_of_key_same heldMember member heldTenant (heldKey.trans key.symm)]

end Safe

end Adoption

/-! ### A restart, two restarts and a demoted owner -/

/-- The seeded owner, and a tenant of the same name from before a restart. -/
def restarted : Memberships where
  rows := [⟨defaultTenantID, "bootstrap:admin", "admin", .owner, true⟩, ⟨"acme", "old", "Admin", .operator, false⟩]
  keysNodup := by decide

/-- The new subject of the owner adopts the rows of its name safely. -/
theorem adoption_safe_restarted : AdoptsSafely sqlLower restarted "new" "admin" :=
  (adoption_safe_iff (by decide)).mpr (by decide)

/-- Two old subjects of the owner's name in the default tenant. -/
def restartedTwice : Memberships where
  rows := [⟨defaultTenantID, "older", "admin", .owner, false⟩, ⟨defaultTenantID, "old", "admin", .viewer, false⟩]
  keysNodup := by decide

/-- The seeded owner beside a viewer of its name. -/
def seededBesideViewer : Memberships where
  rows := [⟨defaultTenantID, "bootstrap:admin", "admin", .owner, false⟩, ⟨defaultTenantID, "old", "admin", .viewer, false⟩]
  keysNodup := by decide

/-- The lookup fails on two old subjects; beside a viewer the seeded owner is removed and the tenant is without one. -/
theorem adoption_unsafe :
    ((restartedTwice.listByUser sqlLower (fun _ => false) "new" "admin").1 = none ∧
      ¬ AdoptsSafely sqlLower restartedTwice "new" "admin") ∧
    (seededBesideViewer.listByUser sqlLower (fun _ => false) "new" "admin").2.rows =
        [⟨defaultTenantID, "new", "admin", .viewer, false⟩] ∧
      ¬ AdoptsSafely sqlLower seededBesideViewer "new" "admin" := by
  have stops : (restartedTwice.listByUser sqlLower (fun _ => false) "new" "admin").1 = none := by decide
  have ends : (seededBesideViewer.listByUser sqlLower (fun _ => false) "new" "admin").2.rows =
      [⟨defaultTenantID, "new", "admin", .viewer, false⟩] := by decide
  refine ⟨⟨stops, fun safe => ?_⟩, ends, fun safe => ?_⟩
  · have found := safe.succeeds
    rw [stops] at found
    cases found
  · obtain ⟨row, only, highest⟩ := safe.adopted (by decide) _ List.mem_cons_self (.inl rfl)
    have there := ((only row).mpr rfl).1
    rw [ends, List.mem_singleton] at there
    have role := highest _ List.mem_cons_self (.inl rfl) rfl
    rw [there] at role
    exact absurd role (by decide)

end MqConnector.Memberships
