/-
This file models the clusters of dead letters: the fingerprint of an error text in
`internal/dlq/cluster`, the columns that `Push` fills with it, and the queries
`ListClusters` and `ClusterByFingerprint`.

A fingerprint is the majority, bit by bit, of the hashes of the tokens of a template.
-/

import MqConnector.Audit

namespace MqConnector

/-! ### Fingerprints -/

/-- `substitutions`: the patterns and what stands for them, in their order. -/
def substitutions : List (String × String) := [
  ("[0-9a-f]\x7b8\x7d-[0-9a-f]\x7b4\x7d-[0-9a-f]\x7b4\x7d-[0-9a-f]\x7b4\x7d-[0-9a-f]\x7b12\x7d", "<uuid>"),
  ("\\d\x7b4\x7d-\\d\x7b2\x7d-\\d\x7b2\x7dt\\d\x7b2\x7d:\\d\x7b2\x7d:\\d\x7b2\x7d(?:\\.\\d+)?(?:z|[+-]\\d\x7b2\x7d:?\\d\x7b2\x7d)?",
    "<time>"),
  ("[a-z0-9._-]+@[a-z0-9._-]+\\.[a-z]\x7b2,\x7d", "<email>"),
  ("\\b\\d\x7b1,3\x7d(\\.\\d\x7b1,3\x7d)\x7b3\x7d(:\\d+)?", "<host>"),
  ("(?:[a-z]:)?/[a-z0-9._/-]\x7b3,\x7d", "<path>"),
  ("\\b[a-z_][a-z0-9_]*(?:\\.[a-z_][a-z0-9_]*)+\\b", "<field>"),
  ("\\b\\d\x7b3,\x7d\\b", "<int>"),
  ("\"[^\"]*\"", "<str>"),
  ("'[^']*'", "<str>")]

/-- `reWS`. -/
def blanks : String := "\\s+"

/-- What a fingerprint takes from other packages: `strings.ToLower`, `ReplaceAllString` of a compiled pattern with a
text and a replacement, and the 64-bit FNV-1a hash of a token. -/
structure ClusterLibrary where
  toLower : String → String
  replaceAllString : String → String → String → String
  sum64 : String → BitVec 64

/-- `cluster.Result`. -/
structure ClusterResult where
  fingerprint : String
  template : String
  tokens : List String
  deriving DecidableEq

/-- `strings.Fields`. -/
def fieldsOf (text : List Char) : List String :=
  ((text.splitOnP isSpace).filter (· ≠ [])).map String.ofList

/-- The digits of `%0*x` in this width. -/
def hexText : Nat → Nat → List Char
  | 0, _ => []
  | width + 1, value => hexText width (value / 16) ++ [hexDigit (value % 16)]

/-- The last loop of `simhashHex`: a bit is set where its bucket is not negative. -/
def setMajority (buckets : Nat → Int) (out : BitVec 64) (bit : Nat) : BitVec 64 :=
  if 0 ≤ buckets bit then out ||| (1#64 <<< bit) else out

namespace ClusterLibrary

variable (library : ClusterLibrary)

/-- The template of an error and its words. -/
def tokenise (errStr : String) : String × List String :=
  let lowered := trimSpace (library.toLower errStr).toList
  if lowered = [] then ("", [])
  else
    let collapsed := library.replaceAllString blanks (String.ofList lowered) " "
    let replaced := substitutions.foldl (fun text sub => library.replaceAllString sub.1 text sub.2) collapsed
    let text := trimSpace (library.replaceAllString blanks replaced " ").toList
    if text = [] then ("", []) else (String.ofList text, fieldsOf text)

/-- The buckets of `simhashHex` after the tokens. -/
def buckets (tokens : List String) : Nat → Int :=
  tokens.foldl (fun buckets token bit =>
    if (library.sum64 token).getLsbD bit then buckets bit + 1 else buckets bit - 1) fun _ => 0

/-- The hash of the words, by the majority of each bit. -/
def simhashHex (tokens : List String) : String :=
  if tokens = [] then ""
  else
    let out := (List.range 64).foldl (setMajority (library.buckets tokens)) 0
    String.ofList (hexText 16 out.toNat)

/-- `Fingerprint`. -/
def fingerprint (errStr : String) : ClusterResult :=
  let (template, tokens) := library.tokenise errStr
  if template = "" then ⟨"", "", []⟩ else ⟨library.simhashHex tokens, template, tokens⟩

/-- The fingerprint of an error of a stage. -/
def fingerprintWithStage (errStr stageName : String) : ClusterResult :=
  if stageName = "" then library.fingerprint errStr
  else
    let (template, tokens) := library.tokenise errStr
    if template = "" then ⟨"", "", []⟩
    else
      let stageToken := "[stage:" ++ library.toLower (String.ofList (trimSpace stageName.toList)) ++ "]"
      ⟨library.simhashHex (stageToken :: tokens), stageToken ++ " " ++ template, stageToken :: tokens⟩

end ClusterLibrary

/-! ### Rows -/

/-- The columns of a dead letter that the clusters are made of. Instants are nanoseconds. -/
structure ClusteredRow where
  id : String
  tenantID : String
  pipelineID : String
  errorReason : String
  failingStageName : String
  createdAt : Int
  errorFingerprint : String := ""
  errorTemplate : String := ""
  deriving DecidableEq

/-- The row that `Push` inserts, as far as it is clustered; the executor leaves the two columns empty. -/
def ClusterLibrary.push (library : ClusterLibrary) (entry : ClusteredRow) : ClusteredRow :=
  let entry := { entry with tenantID := if entry.tenantID = "" then defaultTenantID else entry.tenantID }
  if entry.errorFingerprint = "" ∧ entry.errorReason ≠ "" then
    let result := library.fingerprintWithStage entry.errorReason entry.failingStageName
    { entry with errorFingerprint := result.fingerprint, errorTemplate := result.template }
  else entry

/-- A table that was filled by pushes of such entries. -/
structure PushedTable (library : ClusterLibrary) where
  entries : List ClusteredRow
  unstamped : ∀ entry ∈ entries, entry.errorFingerprint = "" ∧ entry.errorTemplate = ""

def PushedTable.rows {library : ClusterLibrary} (table : PushedTable library) : List ClusteredRow :=
  table.entries.map library.push

/-! ### Queries -/

structure DLQClusterFilter where
  pipelineID : String := ""
  since : Option Int := none
  minCount : Int := 0
  limit : Int := 0

/-- A cluster as it is listed. -/
structure DLQClusterRow where
  fingerprint : String
  template : String
  count : Nat
  firstSeen : Option Int
  lastSeen : Option Int
  deriving DecidableEq

def ClusteredRow.cluster (row : ClusteredRow) : String × String :=
  (row.errorFingerprint, row.errorTemplate)

/-- The row of one cluster. -/
def clusterRow (rows : List ClusteredRow) (cluster : String × String) : DLQClusterRow :=
  let group := rows.filter fun row => row.cluster = cluster
  { fingerprint := cluster.1
    template := cluster.2
    count := group.length
    firstSeen := (group.map ClusteredRow.createdAt).min?
    lastSeen := (group.map ClusteredRow.createdAt).max? }

/-- `GROUP BY error_fingerprint, error_template`. -/
def groupClusters (rows : List ClusteredRow) : List DLQClusterRow :=
  (rows.map ClusteredRow.cluster).dedup.map (clusterRow rows)

/-- The WHERE clause of `ListClusters`. -/
def DLQClusterFilter.selects (filter : DLQClusterFilter) (tenantID : String) (row : ClusteredRow) : Bool :=
  row.tenantID = tenantID ∧ row.errorFingerprint ≠ "" ∧ (filter.pipelineID ≠ "" → row.pipelineID = filter.pipelineID) ∧
    ∀ since ∈ filter.since, since ≤ row.createdAt

/-- The answers of `ListClusters`: groups of one count may come in any order. -/
def ListsClusters (rows : List ClusteredRow) (tenantID : String) (filter : DLQClusterFilter)
    (answer : List DLQClusterRow) : Prop :=
  tenantID ≠ "" ∧ ∃ arranged, List.Perm arranged ((groupClusters (rows.filter (filter.selects tenantID))).filter
      fun cluster => max 1 filter.minCount ≤ cluster.count) ∧
    arranged.Pairwise (fun former latter => latter.count ≤ former.count) ∧
    answer = arranged.take (if filter.limit ≤ 0 then 50 else filter.limit.toNat)

/-- The answers of `ClusterByFingerprint`, which reads the first group; the groups may come in any order. -/
def FindsCluster (rows : List ClusteredRow) (tenantID fingerprint : String) (answer : Option DLQClusterRow) : Prop :=
  tenantID ≠ "" ∧
    if fingerprint = "" then answer = none
    else
      let groups := groupClusters (rows.filter fun row => row.tenantID = tenantID ∧ row.errorFingerprint = fingerprint)
      if groups = [] then answer = none else ∃ cluster ∈ groups, answer = some cluster

/-! ### A fingerprint is the majorities of a bag -/

theorem getLsbD_foldl_setMajority (buckets : Nat → Int) (width bit : Nat) (small : bit < 64) :
    ((List.range width).foldl (setMajority buckets) 0).getLsbD bit = (decide (bit < width) && decide (0 ≤ buckets bit)) := by
  induction width with
  | zero => simp
  | succ width hypothesis =>
    rw [List.range_succ, List.foldl_append, List.foldl_cons, List.foldl_nil, setMajority]
    by_cases same : bit = width
    · subst same
      split
      · simp_all
      · simp_all
    · have kept : (1#64 <<< width).getLsbD bit = false := by
        rw [BitVec.getLsbD_shiftLeft, BitVec.getLsbD_one]
        grind
      have bound : decide (bit < width + 1) = decide (bit < width) := by grind
      split
      · rw [BitVec.getLsbD_or, hypothesis, kept, Bool.or_false, bound]
      · rw [hypothesis, bound]

theorem hexText_injective : ∀ width, ∀ former < 16 ^ width, ∀ latter < 16 ^ width,
    hexText width former = hexText width latter → former = latter := by
  intro width
  induction width with
  | zero =>
    intro former small latter bound _
    omega
  | succ width hypothesis =>
    intro former small latter bound same
    obtain ⟨front, last⟩ := List.append_inj' same rfl
    have high := hypothesis (former / 16) (by rw [Nat.pow_succ] at small; omega) (latter / 16)
      (by rw [Nat.pow_succ] at bound; omega) front
    have low := hexDigit_injective (former % 16) (by omega) (latter % 16) (by omega) (List.cons.inj last).1
    omega

namespace ClusterLibrary

variable (library : ClusterLibrary)

/-- Of the tokens at least as many set a bit of their hash as do not. -/
def Majority (tokens : List String) (bit : Nat) : Prop :=
  tokens.length ≤ 2 * tokens.countP fun token => (library.sum64 token).getLsbD bit

/-- Two bags of tokens that the fingerprint does not tell apart. -/
def SameMajorities (tokens others : List String) : Prop :=
  (tokens = [] ↔ others = []) ∧ ∀ bit < 64, library.Majority tokens bit ↔ library.Majority others bit

theorem buckets_eq (tokens : List String) (bit : Nat) : library.buckets tokens bit =
    2 * (tokens.countP fun token => (library.sum64 token).getLsbD bit) - tokens.length := by
  have started (start : Nat → Int) : tokens.foldl (fun buckets token bit =>
      if (library.sum64 token).getLsbD bit then buckets bit + 1 else buckets bit - 1) start bit =
        start bit + 2 * (tokens.countP fun token => (library.sum64 token).getLsbD bit) - tokens.length := by
    induction tokens generalizing start with
    | nil => simp
    | cons token tokens hypothesis =>
      rw [List.foldl_cons, hypothesis, List.countP_cons, List.length_cons]
      split <;> push_cast <;> omega
  rw [buckets, started]
  omega

/-- The order of the words does not matter to the majorities. -/
theorem sameMajorities_of_perm {tokens others : List String} (reordered : tokens.Perm others) :
    library.SameMajorities tokens others := by
  refine ⟨?_, fun bit _ => ?_⟩
  · rw [← List.length_eq_zero_iff, ← List.length_eq_zero_iff, reordered.length_eq]
  · rw [Majority, Majority, reordered.length_eq, reordered.countP_eq]

theorem majority_iff (tokens : List String) (bit : Nat) :
    library.Majority tokens bit ↔ 0 ≤ library.buckets tokens bit := by
  rw [Majority, buckets_eq]
  omega

theorem simhashHex_eq_empty {tokens : List String} : library.simhashHex tokens = "" ↔ tokens = [] := by
  rw [simhashHex]
  split
  case isTrue none => exact iff_of_true rfl none
  case isFalse some =>
    refine iff_of_false (fun empty => ?_) some
    have length := congrArg (fun text => text.toList.length) empty
    simp [hexText] at length

theorem simhashHex_eq_iff (tokens others : List String) :
    library.simhashHex tokens = library.simhashHex others ↔ library.SameMajorities tokens others := by
  by_cases none : tokens = []
  · subst none
    rw [library.simhashHex_eq_empty.mpr rfl, eq_comm, simhashHex_eq_empty]
    constructor
    · rintro rfl
      exact library.sameMajorities_of_perm (List.Perm.refl _)
    · exact fun same => same.1.mp rfl
  by_cases noOthers : others = []
  · subst noOthers
    rw [library.simhashHex_eq_empty.mpr rfl, simhashHex_eq_empty]
    exact iff_of_false none fun same => none (same.1.mpr rfl)
  rw [simhashHex, simhashHex, if_neg none, if_neg noOthers, SameMajorities, and_iff_right (iff_of_false none noOthers)]
  simp only [majority_iff]
  constructor
  · intro same bit small
    have digits := hexText_injective 16 _ (BitVec.isLt _) _ (BitVec.isLt _) (String.ofList_injective same)
    have bits := congrArg (fun out => out.getLsbD bit) (BitVec.eq_of_toNat_eq digits)
    simp only [getLsbD_foldl_setMajority _ 64 bit small, small, decide_true, Bool.true_and] at bits
    exact decide_eq_decide.mp bits
  · intro same
    refine congrArg (fun out : BitVec 64 => String.ofList (hexText 16 out.toNat)) (BitVec.eq_of_getLsbD_eq ?_)
    intro bit small
    rw [getLsbD_foldl_setMajority _ 64 bit small, getLsbD_foldl_setMajority _ 64 bit small]
    exact congrArg _ (decide_eq_decide.mpr (same bit small))

/-- What `Push` fingerprints of an entry: nothing without an error text. -/
def resultOf (entry : ClusteredRow) : ClusterResult :=
  if entry.errorReason = "" then ⟨"", "", []⟩ else library.fingerprintWithStage entry.errorReason entry.failingStageName

theorem fingerprint_fingerprintWithStage (errStr stageName : String) :
    (library.fingerprintWithStage errStr stageName).fingerprint =
      library.simhashHex (library.fingerprintWithStage errStr stageName).tokens := by
  have empty : library.simhashHex [] = "" := rfl
  rw [fingerprintWithStage, fingerprint]
  dsimp only
  split
  · split
    · exact empty.symm
    · rfl
  · split
    · exact empty.symm
    · rfl

theorem push_columns {entry : ClusteredRow} (unstamped : entry.errorFingerprint = "" ∧ entry.errorTemplate = "") :
    (library.push entry).errorFingerprint = library.simhashHex (library.resultOf entry).tokens ∧
      (library.push entry).errorTemplate = (library.resultOf entry).template := by
  rw [push, resultOf]
  dsimp only
  by_cases silent : entry.errorReason = ""
  · rw [if_neg fun both => both.2 silent, if_pos silent]
    exact unstamped
  · rw [if_pos ⟨unstamped.1, silent⟩, if_neg silent]
    exact ⟨library.fingerprint_fingerprintWithStage _ _, rfl⟩

end ClusterLibrary

/-! ### Consistent clusters -/

section Consistent

/-- The clusters of a table are consistent: the fingerprints are equal where the templates are, and every row of an
unfiltered list has the count of its fingerprint and is what its fingerprint finds. -/
structure ClustersConsistent (rows : List ClusteredRow) : Prop where
  fingerprint_iff : ∀ row ∈ rows, ∀ other ∈ rows,
    row.errorFingerprint = other.errorFingerprint ↔ row.errorTemplate = other.errorTemplate
  counted : ∀ tenantID answer, ListsClusters rows tenantID {} answer → ∀ cluster ∈ answer,
    cluster.count = rows.countP fun row => row.tenantID = tenantID ∧ row.errorFingerprint = cluster.fingerprint
  found : ∀ tenantID answer, ListsClusters rows tenantID {} answer → ∀ cluster ∈ answer,
    ∀ other, FindsCluster rows tenantID cluster.fingerprint other → other = some cluster

variable {rows : List ClusteredRow}

theorem mem_groupClusters {cluster : DLQClusterRow} :
    cluster ∈ groupClusters rows ↔ ∃ row ∈ rows, cluster = clusterRow rows row.cluster := by
  rw [groupClusters, List.mem_map]
  constructor
  · rintro ⟨key, member, rfl⟩
    obtain ⟨row, among, rfl⟩ := List.mem_map.mp (List.mem_dedup.mp member)
    exact ⟨row, among, rfl⟩
  · rintro ⟨row, among, rfl⟩
    exact ⟨_, List.mem_dedup.mpr (List.mem_map_of_mem among), rfl⟩

theorem exists_of_listsClusters {tenantID : String} {filter : DLQClusterFilter} {answer : List DLQClusterRow}
    (lists : ListsClusters rows tenantID filter answer) {cluster : DLQClusterRow} (member : cluster ∈ answer) :
    ∃ row ∈ rows, filter.selects tenantID row ∧
      cluster = clusterRow (rows.filter (filter.selects tenantID)) row.cluster := by
  obtain ⟨-, arranged, same, -, rfl⟩ := lists
  have among := (List.mem_filter.mp (same.mem_iff.mp (List.mem_of_mem_take member))).1
  obtain ⟨row, selected, rfl⟩ := mem_groupClusters.mp among
  obtain ⟨here, selects⟩ := List.mem_filter.mp selected
  exact ⟨row, here, selects, rfl⟩

theorem clusterRow_congr {former latter : ClusteredRow → Bool} {cluster : String × String}
    (agree : ∀ row ∈ rows, row.cluster = cluster → former row = latter row) :
    clusterRow (rows.filter former) cluster = clusterRow (rows.filter latter) cluster := by
  have same : (rows.filter former).filter (fun row => row.cluster = cluster) =
      (rows.filter latter).filter fun row => row.cluster = cluster := by
    rw [List.filter_filter, List.filter_filter]
    refine List.filter_congr fun row member => ?_
    by_cases here : row.cluster = cluster
    · rw [agree row member here]
    · simp [here]
  rw [clusterRow, clusterRow, same]

theorem clustersConsistent_of_iff (agree : ∀ row ∈ rows, ∀ other ∈ rows,
    row.errorFingerprint = other.errorFingerprint ↔ row.errorTemplate = other.errorTemplate) :
    ClustersConsistent rows := by
  -- among the rows of a tenant the cluster of a row is its fingerprint
  have cluster_iff {row other : ClusteredRow} (member : row ∈ rows) (among : other ∈ rows) :
      row.cluster = other.cluster ↔ row.errorFingerprint = other.errorFingerprint := by
    refine ⟨fun same => congrArg Prod.fst same, fun same => Prod.ext same ?_⟩
    exact (agree row member other among).mp same
  have selects_iff (tenantID : String) (row : ClusteredRow) : (DLQClusterFilter.selects {} tenantID row = true) ↔
      row.tenantID = tenantID ∧ row.errorFingerprint ≠ "" := by
    simp [DLQClusterFilter.selects]
  refine ⟨agree, fun tenantID answer lists cluster member => ?_, fun tenantID answer lists cluster member other finds => ?_⟩
  · obtain ⟨first, firstMember, selected, rfl⟩ := exists_of_listsClusters lists member
    obtain ⟨-, stamped⟩ := (selects_iff _ _).mp selected
    rw [clusterRow, List.filter_filter, ← List.countP_eq_length_filter]
    refine List.countP_congr fun row among => ?_
    rw [Bool.and_eq_true, decide_eq_true_eq, decide_eq_true_eq, selects_iff, cluster_iff among firstMember]
    show _ ↔ _ ∧ _ = first.errorFingerprint
    constructor
    · rintro ⟨same, tenant, -⟩
      exact ⟨tenant, same⟩
    · rintro ⟨tenant, same⟩
      exact ⟨same, tenant, same ▸ stamped⟩
  · obtain ⟨first, firstMember, selected, rfl⟩ := exists_of_listsClusters lists member
    obtain ⟨tenant, stamped⟩ := (selects_iff _ _).mp selected
    obtain ⟨-, reads⟩ := finds
    have here : (clusterRow (rows.filter (DLQClusterFilter.selects {} tenantID)) first.cluster).fingerprint =
        first.errorFingerprint := rfl
    rw [here, if_neg stamped] at reads
    have some_ : groupClusters (rows.filter fun row =>
        row.tenantID = tenantID ∧ row.errorFingerprint = first.errorFingerprint) ≠ [] := by
      have among : clusterRow _ first.cluster ∈ groupClusters (rows.filter fun row =>
          row.tenantID = tenantID ∧ row.errorFingerprint = first.errorFingerprint) :=
        mem_groupClusters.mpr ⟨first, List.mem_filter.mpr ⟨firstMember, by simp [tenant]⟩, rfl⟩
      exact List.ne_nil_of_mem among
    rw [if_neg some_] at reads
    obtain ⟨group, among, rfl⟩ := reads
    obtain ⟨row, rowMember, rfl⟩ := mem_groupClusters.mp among
    obtain ⟨rowHere, rowSelected⟩ := List.mem_filter.mp rowMember
    simp only [decide_eq_true_eq] at rowSelected
    rw [(cluster_iff rowHere firstMember).mpr rowSelected.2]
    refine congrArg some (clusterRow_congr fun held heldMember same => ?_)
    rw [Bool.eq_iff_iff, decide_eq_true_eq, selects_iff, (cluster_iff heldMember firstMember).mp same]
    exact and_congr_right fun _ => iff_of_true rfl stamped

/-- The clusters are consistent exactly if equal templates and equal majorities go together. -/
theorem clustersConsistent_iff (library : ClusterLibrary) (table : PushedTable library) :
    ClustersConsistent table.rows ↔ ∀ entry ∈ table.entries, ∀ other ∈ table.entries,
      (library.resultOf entry).template = (library.resultOf other).template ↔
        library.SameMajorities (library.resultOf entry).tokens (library.resultOf other).tokens := by
  have columns {entry other : ClusteredRow} (member : entry ∈ table.entries) (among : other ∈ table.entries) :
      ((library.push entry).errorFingerprint = (library.push other).errorFingerprint ↔
        (library.push entry).errorTemplate = (library.push other).errorTemplate) ↔
      ((library.resultOf entry).template = (library.resultOf other).template ↔
        library.SameMajorities (library.resultOf entry).tokens (library.resultOf other).tokens) := by
    obtain ⟨fingerprint, template⟩ := library.push_columns (table.unstamped entry member)
    obtain ⟨otherFingerprint, otherTemplate⟩ := library.push_columns (table.unstamped other among)
    rw [fingerprint, template, otherFingerprint, otherTemplate, library.simhashHex_eq_iff]
    exact Iff.comm
  constructor
  · intro consistent entry member other among
    exact (columns member among).mp
      (consistent.fingerprint_iff _ (List.mem_map_of_mem member) _ (List.mem_map_of_mem among))
  · intro apart
    refine clustersConsistent_of_iff fun row member other among => ?_
    obtain ⟨entry, entryMember, rfl⟩ := List.mem_map.mp member
    obtain ⟨otherEntry, otherMember, rfl⟩ := List.mem_map.mp among
    exact (columns entryMember otherMember).mpr (apart entry entryMember otherEntry otherMember)

end Consistent

/-! ### Stage names without blanks -/

namespace ClusterLibrary

variable (library : ClusterLibrary)

theorem tokens_tokenise (errStr : String) :
    (library.tokenise errStr).2 = fieldsOf (library.tokenise errStr).1.toList := by
  rw [tokenise]
  dsimp only
  split
  · rfl
  split
  · rfl
  · exact congrArg fieldsOf String.toList_ofList.symm

theorem tokens_resultOf {entry : ClusteredRow}
    (unbroken : ∀ character ∈ (library.toLower (String.ofList (trimSpace entry.failingStageName.toList))).toList,
      isSpace character = false) :
    (library.resultOf entry).tokens = fieldsOf (library.resultOf entry).template.toList := by
  have plain := library.tokens_tokenise entry.errorReason
  rw [resultOf]
  split
  · rfl
  rw [fingerprintWithStage, fingerprint]
  dsimp only
  split
  · split
    · rfl
    · exact plain
  split
  · rfl
  have token : ∀ character ∈ ("[stage:" ++ library.toLower (String.ofList (trimSpace entry.failingStageName.toList)) ++
      "]").toList, isSpace character = false := by
    intro character member
    simp only [String.toList_append, List.mem_append] at member
    rcases member with (opens | inner) | closes
    · have plain : ∀ character ∈ "[stage:".toList, isSpace character = false :=
        List.forall_iff_forall_mem.mp (by decide)
      exact plain character opens
    · exact unbroken character inner
    · rw [List.mem_singleton.mp closes]
      rfl
  rw [String.toList_append, String.toList_append, List.append_assoc]
  show _ = fieldsOf (_ ++ ' ' :: _)
  rw [fieldsOf, List.splitOnP_append_cons_of_forall_mem token ' ' (by decide), List.filter_cons_of_pos, List.map_cons,
    String.ofList_toList]
  · exact congrArg (_ :: ·) plain
  · simp

end ClusterLibrary

/-- The clusters of a table are consistent exactly when, of every two entries, the templates are equal where no
majority of their tokens differs; among stage names without blanks only different templates can be at fault. -/
theorem clusters_consistent_iff (library : ClusterLibrary) (table : PushedTable library) :
    (ClustersConsistent table.rows ↔ ∀ entry ∈ table.entries, ∀ other ∈ table.entries,
      (library.resultOf entry).template = (library.resultOf other).template ↔
        library.SameMajorities (library.resultOf entry).tokens (library.resultOf other).tokens) ∧
    ((∀ entry ∈ table.entries, ∀ character ∈
        (library.toLower (String.ofList (trimSpace entry.failingStageName.toList))).toList, isSpace character = false) →
      (ClustersConsistent table.rows ↔ ∀ entry ∈ table.entries, ∀ other ∈ table.entries,
        library.SameMajorities (library.resultOf entry).tokens (library.resultOf other).tokens →
          (library.resultOf entry).template = (library.resultOf other).template)) := by
  refine ⟨clustersConsistent_iff library table, fun unbroken => ?_⟩
  rw [clustersConsistent_iff]
  refine forall₂_congr fun entry member => forall₂_congr fun other among => ⟨Iff.mpr, fun apart => ⟨fun same => ?_, apart⟩⟩
  rw [library.tokens_resultOf (unbroken entry member), library.tokens_resultOf (unbroken other among), same]
  exact library.sameMajorities_of_perm (List.Perm.refl _)

/-! ### Two words -/

/-- The 64-bit FNV-1a hash of the bytes of a token. -/
def fnv64a (token : String) : BitVec 64 :=
  token.toUTF8.toList.foldl (fun sum byte => (sum ^^^ BitVec.ofNat 64 byte.toNat) * 0x100000001b3#64) 0xcbf29ce484222325#64

/-- A library for lower-case words with single blanks between them, which no pattern changes. -/
def wordLibrary : ClusterLibrary where
  toLower text := text
  replaceAllString _ text _ := text
  sum64 := fnv64a

/-- Two refusals without a stage, in two words that are exchanged. -/
def refusals : PushedTable wordLibrary where
  entries := [⟨"1", "acme", "orders", "connection refused", "", 1, "", ""⟩,
    ⟨"2", "acme", "orders", "refused connection", "", 2, "", ""⟩]
  unstamped := by decide

/-- Errors whose words are exchanged have one fingerprint and two templates, though the words have different hashes. -/
theorem clusters_inconsistent :
    fnv64a "connection" ≠ fnv64a "refused" ∧ ¬ ClustersConsistent refusals.rows := by
  refine ⟨by decide +kernel, fun consistent => ?_⟩
  have first : (wordLibrary.resultOf refusals.entries[0]).tokens = ["connection", "refused"] := by decide
  have second : (wordLibrary.resultOf refusals.entries[1]).tokens = ["refused", "connection"] := by decide
  have apart : (wordLibrary.resultOf refusals.entries[0]).template ≠ (wordLibrary.resultOf refusals.entries[1]).template := by
    decide
  refine apart (((clustersConsistent_iff wordLibrary refusals).mp consistent _ (List.getElem_mem _) _
    (List.getElem_mem _)).mpr ?_)
  rw [first, second]
  exact wordLibrary.sameMajorities_of_perm (List.Perm.swap _ _ _)

end MqConnector
