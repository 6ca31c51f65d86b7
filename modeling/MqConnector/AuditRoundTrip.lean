/-
This file asks whether the hash of an audit row is still the hash of the row when
the row comes back from the database.

`Insert` hashes the instant it was given, in nanoseconds. SQLite returns the
instant it was handed; a Postgres `TIMESTAMP` has microseconds, and `Verify` hashes
the instant that was kept.

Both paths of `Insert` are here, with everything the driver may answer.
-/

import MqConnector.Leadership
import MqConnector.TamperEvidence

namespace MqConnector

/-! ### The column of the instant -/

/-- A `TIMESTAMP` column and the driver before it: what comes back is a whole number of
microseconds, less than one off, and just what was stored if that was one. -/
structure TimestampColumn where
  keep : Int → Int
  whole : ∀ instant, 1000 ∣ keep instant
  near : ∀ instant, instant - 1000 < keep instant ∧ keep instant < instant + 1000
  exact : ∀ instant, 1000 ∣ instant → keep instant = instant

/-- What pgx sends: the nanoseconds are dropped. -/
def TimestampColumn.pgx : TimestampColumn where
  keep instant := instant / 1000 * 1000
  whole instant := Int.dvd_mul_left (instant / 1000) 1000
  near instant := by omega
  exact _ divides := Int.ediv_mul_cancel divides

/-- The instant that comes back from `audit_log`. -/
def TimestampColumn.kept (column : TimestampColumn) : Dialect → Int → Int
  | .sqlite, instant => instant
  | .postgres, instant => column.keep instant

/-- The condition: the dialect is SQLite, or the instant is a whole number of microseconds. -/
def Keepable (dialect : Dialect) (instant : Int) : Prop :=
  dialect = .sqlite ∨ 1000 ∣ instant

instance (dialect : Dialect) (instant : Int) : Decidable (Keepable dialect instant) :=
  inferInstanceAs (Decidable (_ ∨ _))

theorem TimestampColumn.kept_eq_iff (column : TimestampColumn) (dialect : Dialect) (instant : Int) :
    column.kept dialect instant = instant ↔ Keepable dialect instant := by
  cases dialect with
  | sqlite => exact iff_of_true rfl (Or.inl rfl)
  | postgres =>
    constructor
    · intro same
      exact Or.inr (same ▸ column.whole instant)
    · rintro (other | divides)
      · exact Dialect.noConfusion other
      · exact column.exact instant divides

theorem TimestampColumn.unixNano_kept_iff (column : TimestampColumn) (dialect : Dialect)
    (instant : Int) :
    unixNano (column.kept dialect instant) = unixNano instant ↔
      column.kept dialect instant = instant := by
  refine ⟨fun same => ?_, congrArg unixNano⟩
  have close : instant - 1000 < column.kept dialect instant ∧
      column.kept dialect instant < instant + 1000 := by
    cases dialect with
    | sqlite =>
      show instant - 1000 < instant ∧ instant < instant + 1000
      omega
    | postgres => exact column.near instant
  have wrapped : (unixNano (column.kept dialect instant)) % 2 ^ 64 = unixNano instant % 2 ^ 64 :=
    congrArg (· % 2 ^ 64) same
  have kept : unixNano (column.kept dialect instant) % 2 ^ 64 =
      column.kept dialect instant % 2 ^ 64 := Int.bmod_emod
  have given : unixNano instant % 2 ^ 64 = instant % 2 ^ 64 := Int.bmod_emod
  omega

/-! ### The two paths of Insert -/

section Paths

variable (sha256 : String → Fin 32 → UInt8) (column : TimestampColumn) (dialect : Dialect)

/-- What the database answers in one attempt, with the text of an error. -/
structure TxAnswers where
  begins : Option String := none
  looks : Option String := none
  writes : Option String := none
  commits : Option String := none
  deriving DecidableEq

/-- `if err != nil { return fmt.Errorf(…) }`. -/
def wrapError (text : String) : Option String → Except String Unit
  | none => .ok ()
  | some error => .error (text ++ error)

/-- The answer to `INSERT`; the id is the primary key. -/
def TxAnswers.written (answers : TxAnswers) (rows : List AuditRow) (id : String) : Option String :=
  if ∃ other ∈ rows, other.id = id then
    some "ERROR: duplicate key value violates unique constraint (SQLSTATE 23505)"
  else answers.writes

/-- The row that comes back. -/
def AuditRow.readBack (row : AuditRow) : AuditRow :=
  { row with instant := column.kept dialect row.instant }

/-- `tryInsertSerialised`; the answer is the row as it will come back. -/
def tryInsertSerialised (rows : List AuditRow) (entry : AuditRow) (answers : TxAnswers) :
    Except String AuditRow := do
  wrapError "audit begin tx: " answers.begins
  wrapError "audit chain head: " answers.looks
  let chained := entry.chained sha256 ((chainHead rows entry.tenantID).getD "")
  wrapError "insert audit: " (answers.written rows entry.id)
  wrapError "audit commit: " answers.commits
  return chained.readBack column dialect

def isSerializationFailure (error : String) : Bool :=
  "could not serialize access".toList <:+: error.toList ∨
    "SQLSTATE 40001".toList <:+: error.toList

/-- The attempts of `insertSerialised` from one on, with how many are left and the last error. -/
def insertSerialisedFrom (tables : Nat → List AuditRow) (entry : AuditRow)
    (answers : Nat → TxAnswers) (attempt : Nat) : Nat → String → Except String AuditRow
  | 0, lastErr => .error ("audit insert: serializable retry exhausted: " ++ lastErr)
  | left + 1, _ =>
    match tryInsertSerialised sha256 column dialect (tables attempt) entry (answers attempt) with
    | .ok row => .ok row
    | .error error =>
      if isSerializationFailure error then
        insertSerialisedFrom tables entry answers (attempt + 1) left error
      else .error error

def insertSerialised (tables : Nat → List AuditRow) (entry : AuditRow)
    (answers : Nat → TxAnswers) : Except String AuditRow :=
  insertSerialisedFrom sha256 column dialect tables entry answers 0 5 ""

/-- The rest of `Insert`, under `chainMu`. -/
def insertLocked (rows : List AuditRow) (entry : AuditRow) (answers : TxAnswers) :
    Except String AuditRow := do
  wrapError "audit chain head: " answers.looks
  let chained := entry.chained sha256 ((chainHead rows entry.tenantID).getD "")
  wrapError "insert audit: " (answers.written rows entry.id)
  return chained.readBack column dialect

/-- A call of `Insert` and what the database answers, attempt by attempt. -/
structure Insertion where
  entry : AuditRow
  freshID : String := ""
  now : Int := 0
  answers : Nat → TxAnswers := fun _ => {}

def Insertion.completed (call : Insertion) : AuditRow :=
  call.entry.complete call.freshID call.now

/-- `Insert`, over the table as it is at each attempt. -/
def Insertion.insert (call : Insertion) (tables : Nat → List AuditRow) : Except String AuditRow :=
  match dialect with
  | .postgres => insertSerialised sha256 column dialect tables call.completed call.answers
  | .sqlite => insertLocked sha256 column dialect (tables 0) call.completed (call.answers 0)

/-- The table after one call with nobody else writing. -/
def insertNext (rows : List AuditRow) (call : Insertion) : List AuditRow :=
  match call.insert sha256 column dialect fun _ => rows with
  | .ok row => rows ++ [row]
  | .error _ => rows

def insertAll (history : List Insertion) : List AuditRow :=
  history.foldl (insertNext sha256 column dialect) []

end Paths

/-! ### The row that is stored -/

section Stored

variable {sha256 : String → Fin 32 → UInt8} {column : TimestampColumn} {dialect : Dialect}
  {rows : List AuditRow} {entry row : AuditRow}

theorem wrapError_bind_eq_ok {Value : Type} {text : String} {answer : Option String}
    {rest : Unit → Except String Value} {value : Value}
    (done : (wrapError text answer >>= rest) = .ok value) : answer = none ∧ rest () = .ok value := by
  cases answer with
  | none => exact ⟨rfl, done⟩
  | some error => exact nomatch done

theorem insertLocked_ok {answers : TxAnswers}
    (done : insertLocked sha256 column dialect rows entry answers = .ok row) :
    row = (entry.chained sha256 ((chainHead rows entry.tenantID).getD "")).readBack column
      dialect := by
  obtain ⟨-, done⟩ := wrapError_bind_eq_ok done
  obtain ⟨-, done⟩ := wrapError_bind_eq_ok done
  exact (Except.ok.inj done).symm

theorem tryInsertSerialised_ok {answers : TxAnswers}
    (done : tryInsertSerialised sha256 column dialect rows entry answers = .ok row) :
    row = (entry.chained sha256 ((chainHead rows entry.tenantID).getD "")).readBack column
      dialect := by
  obtain ⟨-, done⟩ := wrapError_bind_eq_ok done
  obtain ⟨-, done⟩ := wrapError_bind_eq_ok done
  obtain ⟨-, done⟩ := wrapError_bind_eq_ok done
  obtain ⟨-, done⟩ := wrapError_bind_eq_ok done
  exact (Except.ok.inj done).symm

theorem insertSerialisedFrom_ok {tables : Nat → List AuditRow} {answers : Nat → TxAnswers}
    {attempt left : Nat} {lastErr : String}
    (done : insertSerialisedFrom sha256 column dialect tables entry answers attempt left lastErr =
      .ok row) :
    ∃ tried, row = (entry.chained sha256
      ((chainHead (tables tried) entry.tenantID).getD "")).readBack column dialect := by
  induction left generalizing attempt lastErr with
  | zero => exact nomatch done
  | succ left hypothesis =>
    unfold insertSerialisedFrom at done
    split at done
    · rename_i stored tried
      obtain rfl := Except.ok.inj done
      exact ⟨attempt, tryInsertSerialised_ok tried⟩
    · split at done
      · exact hypothesis done
      · exact nomatch done

theorem Insertion.insert_ok {call : Insertion} {tables : Nat → List AuditRow}
    (done : call.insert sha256 column dialect tables = .ok row) :
    ∃ tried, row = (call.completed.chained sha256
      ((chainHead (tables tried) call.completed.tenantID).getD "")).readBack column dialect := by
  cases dialect with
  | sqlite => exact ⟨0, insertLocked_ok done⟩
  | postgres => exact insertSerialisedFrom_ok done

/-- What `Verify` checks first of a row. -/
def Rehashes (sha256 : String → Fin 32 → UInt8) (row : AuditRow) : Prop :=
  computeAuditHash sha256 row.prevHash row = row.hash

theorem canonicalAuditBytes_instant (instant : Int)
    (same : AuditRow.canonicalAuditBytes { row with instant := instant } =
      row.canonicalAuditBytes) : unixNano instant = unixNano row.instant := by
  unfold AuditRow.canonicalAuditBytes at same
  simp only [String.intercalate_cons_cons, String.append_assoc, String.append_right_inj,
    String.append_left_inj] at same
  exact Int.repr_injective same

theorem rehashes_readBack_iff (prev : String)
    (apart : NoCollision sha256 [entry.chained sha256 prev,
      (entry.chained sha256 prev).readBack column dialect]) :
    Rehashes sha256 ((entry.chained sha256 prev).readBack column dialect) ↔
      Keepable dialect entry.instant := by
  rw [← column.kept_eq_iff, ← column.unixNano_kept_iff]
  constructor
  · intro fits
    have digests := encodeToString_injective fits
    have texts := apart _ (List.mem_cons_of_mem _ List.mem_cons_self) _ List.mem_cons_self digests
    have bytes := (String.append_right_inj _).mp texts
    exact canonicalAuditBytes_instant (column.kept dialect entry.instant) bytes
  · intro same
    show encodeToString _ = encodeToString _
    unfold AuditRow.canonicalAuditBytes
    rw [show unixNano ((entry.chained sha256 prev).readBack column dialect).instant =
      unixNano entry.instant from same]
    rfl

end Stored

/-! ### Histories -/

section Histories

variable {sha256 : String → Fin 32 → UInt8} {column : TimestampColumn} {dialect : Dialect}
  {rows : List AuditRow} {history : List Insertion} {row : AuditRow}

/-- The stored instants come in strictly increasing order. -/
def Rising (rows : List AuditRow) : Prop :=
  rows.Pairwise fun former latter => former.instant < latter.instant

instance (rows : List AuditRow) : Decidable (Rising rows) :=
  inferInstanceAs (Decidable (rows.Pairwise _))

/-- The rows of every tenant stand in order, each chained to the one before, and all have a hash. -/
structure Threaded (rows : List AuditRow) : Prop where
  ordered : Ordered rows
  links : ∀ tenantID, (tenantRows rows tenantID).IsChain fun former latter =>
    latter.prevHash = former.hash
  hashed : ∀ row ∈ rows, row.hash ≠ ""

theorem threaded_nil : Threaded [] where
  ordered _ := List.Pairwise.nil
  links _ := List.IsChain.nil
  hashed _ member := absurd member List.not_mem_nil

theorem ordered_of_rising (rise : Rising rows) : Ordered rows := by
  intro tenantID
  refine List.Pairwise.filter _ (rise.imp fun below => ?_)
  exact (Prod.Lex.lt_iff ..).mpr (Or.inl below)

theorem Threaded.concat (threaded : Threaded rows) (rise : Rising (rows ++ [row]))
    (prev : row.prevHash = (chainHead rows row.tenantID).getD "") (hash : row.hash ≠ "") :
    Threaded (rows ++ [row]) := by
  refine ⟨ordered_of_rising rise, fun tenantID => ?_, fun other member => ?_⟩
  · rw [tenantRows_concat]
    split
    · rename_i here
      refine List.isChain_append.mpr ⟨threaded.links tenantID, List.isChain_singleton _, ?_⟩
      intro last found next first
      obtain rfl : row = next := Option.some.inj first
      rw [prev, chainHead_of_ordered threaded.ordered, here, Option.mem_def.mp found]
      rfl
    · exact threaded.links tenantID
  · rcases List.mem_append.mp member with earlier | newest
    · exact threaded.hashed other earlier
    · rw [List.mem_singleton.mp newest]
      exact hash

/-- A threaded log verifies exactly if each row has the hash that it stores. -/
theorem Threaded.verifies_iff (threaded : Threaded rows) :
    Verifies sha256 rows ↔ ∀ row ∈ rows, Rehashes sha256 row := by
  constructor
  · intro verifies row member
    obtain ⟨statuses, answered, fine, named⟩ := verifies "*" (by decide)
    have walked : Walked sha256 _ (walkOrder rows "*") :=
      walked_foldl fun row member => threaded.hashed row (mem_walkOrder.mp member).1
    obtain ⟨status, among, tenant⟩ := named row member (Or.inl rfl)
    have ok := fine status among
    have reported : ((walkOrder rows "*").foldl (ChainWalk.visit sha256) {}).statusByTenant =
        statuses := Except.ok.inj answered
    rw [← reported] at among
    have linked := (walked.verdict status among).mp ok
    rw [tenantRows_walkOrder (threaded.ordered _) (Or.inl rfl), tenant] at linked
    exact (linked.2 row (List.mem_filter.mpr ⟨member, decide_eq_true rfl⟩)).symm
  · intro fits
    refine verifies_of_linked threaded.ordered fun tenantID => ⟨threaded.links tenantID, ?_⟩
    exact fun row member => (fits row (List.mem_filter.mp member).1).symm

theorem insertAll_concat (call : Insertion) :
    insertAll sha256 column dialect (history ++ [call]) =
      insertNext sha256 column dialect (insertAll sha256 column dialect history) call := by
  unfold insertAll
  rw [List.foldl_append]
  rfl

/-- Calls at rising instants leave a threaded log. -/
theorem threaded_insertAll (rise : Rising (insertAll sha256 column dialect history)) :
    Threaded (insertAll sha256 column dialect history) := by
  induction history using List.reverseRecOn with
  | nil => exact threaded_nil
  | append_singleton history call hypothesis =>
    rw [insertAll_concat] at rise ⊢
    unfold insertNext at rise ⊢
    split at rise
    · rename_i row done
      have threaded := hypothesis (List.pairwise_append.mp rise).1
      obtain ⟨tried, rfl⟩ := Insertion.insert_ok done
      exact threaded.concat rise rfl (encodeToString_ne_empty _)
    · rename_i error failed
      exact hypothesis rise

/-- The call of a history that comes after others stores a row. -/
def StoresAfter (sha256 : String → Fin 32 → UInt8) (column : TimestampColumn) (dialect : Dialect)
    (history prior : List Insertion) (call : Insertion) (row : AuditRow) : Prop :=
  prior ++ [call] <+: history ∧
    call.insert sha256 column dialect (fun _ => insertAll sha256 column dialect prior) = .ok row

theorem mem_insertAll_iff :
    row ∈ insertAll sha256 column dialect history ↔
      ∃ prior call, StoresAfter sha256 column dialect history prior call row := by
  induction history using List.reverseRecOn with
  | nil =>
    refine iff_of_false List.not_mem_nil ?_
    rintro ⟨prior, call, early, -⟩
    exact absurd (List.prefix_nil.mp early) (List.append_ne_nil_of_right_ne_nil _ nofun)
  | append_singleton history call hypothesis =>
    have split : ∀ prior other, StoresAfter sha256 column dialect (history ++ [call]) prior other row ↔
        StoresAfter sha256 column dialect history prior other row ∨
          (prior = history ∧ other = call ∧ call.insert sha256 column dialect
            (fun _ => insertAll sha256 column dialect history) = .ok row) := by
      intro prior other
      unfold StoresAfter
      rw [List.prefix_concat_iff, or_and_right, or_comm]
      refine or_congr_right ?_
      constructor
      · rintro ⟨same, done⟩
        obtain ⟨rfl, last⟩ := List.append_inj' same rfl
        obtain rfl : other = call := List.singleton_injective last
        exact ⟨rfl, rfl, done⟩
      · rintro ⟨rfl, rfl, done⟩
        exact ⟨rfl, done⟩
    simp only [split, exists_or, ← hypothesis]
    rw [insertAll_concat, insertNext]
    split
    · rename_i stored done
      simp [done, eq_comm]
    · rename_i error failed
      simp [failed]

/-- The row as it comes back and the row as it was hashed do not collide. -/
def Insertion.Apart (call : Insertion) (sha256 : String → Fin 32 → UInt8) (row : AuditRow) : Prop :=
  NoCollision sha256 [{ row with instant := call.completed.instant }, row]

/-- A row has the stored hash exactly if its column keeps the instant of the call. -/
theorem Insertion.rehashes_iff {call : Insertion} {tables : Nat → List AuditRow}
    (done : call.insert sha256 column dialect tables = .ok row) (apart : call.Apart sha256 row) :
    Rehashes sha256 row ↔ Keepable dialect call.completed.instant := by
  obtain ⟨tried, rfl⟩ := Insertion.insert_ok done
  exact rehashes_readBack_iff _ apart

theorem Insertion.apart_of_keepable {call : Insertion} {tables : Nat → List AuditRow}
    (done : call.insert sha256 column dialect tables = .ok row)
    (keep : Keepable dialect call.completed.instant) : call.Apart sha256 row := by
  have kept : row.instant = call.completed.instant := by
    obtain ⟨tried, rfl⟩ := Insertion.insert_ok done
    exact (column.kept_eq_iff dialect _).mpr keep
  intro former formerIn latter latterIn _
  rw [← kept] at formerIn latterIn
  rcases List.mem_pair.mp formerIn with rfl | rfl
  · rcases List.mem_pair.mp latterIn with rfl | rfl
    · rfl
    · rfl
  · rcases List.mem_pair.mp latterIn with rfl | rfl
    · rfl
    · rfl

end Histories

/-- A row that is stored rehashes exactly if the database can keep its instant, and the log left by
calls at increasing stored instants verifies exactly if it can keep the instant of each. -/
theorem rehashes_iff_keepable (sha256 : String → Fin 32 → UInt8) (column : TimestampColumn)
    (dialect : Dialect) :
    (∀ (call : Insertion) tables row, call.insert sha256 column dialect tables = .ok row →
      call.Apart sha256 row → (Rehashes sha256 row ↔ Keepable dialect call.completed.instant)) ∧
    ∀ history, Rising (insertAll sha256 column dialect history) →
      (∀ prior call row, StoresAfter sha256 column dialect history prior call row →
        call.Apart sha256 row) →
      (Verifies sha256 (insertAll sha256 column dialect history) ↔
        ∀ prior call row, StoresAfter sha256 column dialect history prior call row →
          Keepable dialect call.completed.instant) := by
  refine ⟨fun call tables row done apart => call.rehashes_iff done apart, ?_⟩
  intro history rise apart
  rw [(threaded_insertAll rise).verifies_iff]
  constructor
  · intro fits prior call row stores
    have member := mem_insertAll_iff.mpr ⟨prior, call, stores⟩
    exact (call.rehashes_iff stores.2 (apart prior call row stores)).mp (fits row member)
  · intro keeps row member
    obtain ⟨prior, call, stores⟩ := mem_insertAll_iff.mp member
    exact (call.rehashes_iff stores.2 (apart prior call row stores)).mpr (keeps prior call row stores)

/-- A call that stores a sample row at an instant. -/
def sampleCall (instant : Int) : Insertion where
  entry := { sampleRow "ann" "u1" with instant := instant }

/-- SHA-256 on the texts of a row at an instant and at the microsecond below it. -/
def instantSha256 (text : String) : Fin 32 → UInt8 :=
  if text = "" ++ (sampleCall 1700000000000000001).entry.canonicalAuditBytes then
    digestOf 0xebef821ddccccc671dc6c012dd8cea54599cad576ac9bfbb024a5267517cf4ee
  else if text = "" ++ (sampleCall 1700000000000000000).entry.canonicalAuditBytes then
    digestOf 0x22f5d13cb8739a0dfefe9f268550c9ede53474590d8c6a415746b6a4af585926
  else fun _ => 0

/-- Two rows at whole microseconds, the second after an attempt that another replica spoiled. -/
def microsecondCalls : List Insertion :=
  [sampleCall 1700000000000000000,
    { entry := { sampleRow "ann" "u1" with
        id := "1b9c3c52-6d0e-4a55-9d0c-1f2e3a4b5c61"
        instant := 1700000000000001000 }
      answers := fun attempt =>
        if attempt = 0 then { commits := some "ERROR: could not serialize access (SQLSTATE 40001)" }
        else {} }]

/-- Two calls at whole microseconds verify on Postgres. -/
theorem microsecondCalls_verify :
    (insertAll instantSha256 .pgx .postgres microsecondCalls).length = 2 ∧
      Verifies instantSha256 (insertAll instantSha256 .pgx .postgres microsecondCalls) := by
  refine ⟨by decide, ?_⟩
  have keeps : ∀ call ∈ microsecondCalls, Keepable .postgres call.completed.instant := by
    decide
  refine ((rehashes_iff_keepable instantSha256 .pgx .postgres).2 microsecondCalls
    (by decide) ?_).mpr ?_
  · intro prior call row stores
    have keep := keeps call (stores.1.subset (List.mem_append_right _ List.mem_cons_self))
    exact call.apart_of_keepable stores.2 keep
  · intro prior call row stores
    exact keeps call (stores.1.subset (List.mem_append_right _ List.mem_cons_self))

/-- A row with one nanosecond beyond a whole microsecond: the log of this one row is broken. -/
theorem nanosecond_breaks :
    ∃ row, (sampleCall 1700000000000000001).insert instantSha256 .pgx .postgres (fun _ => []) =
        .ok row ∧ ¬ Rehashes instantSha256 row ∧
      Rising (insertAll instantSha256 .pgx .postgres [sampleCall 1700000000000000001]) ∧
      ¬ Verifies instantSha256
        (insertAll instantSha256 .pgx .postgres [sampleCall 1700000000000000001]) := by
  let hashed := (sampleCall 1700000000000000001).entry.chained instantSha256 ""
  let row := hashed.readBack .pgx .postgres
  have done : (sampleCall 1700000000000000001).insert instantSha256 .pgx .postgres (fun _ => []) =
      .ok row := rfl
  have rise : Rising (insertAll instantSha256 .pgx .postgres [sampleCall 1700000000000000001]) :=
    List.pairwise_singleton _ row
  have fails : ¬ Rehashes instantSha256 row := by
    intro fits
    have digests := encodeToString_injective fits
    exact absurd (congrFun digests 0) (by decide)
  refine ⟨row, done, fails, rise, fun verifies => ?_⟩
  exact fails ((threaded_insertAll rise).verifies_iff.mp verifies row List.mem_cons_self)

end MqConnector
