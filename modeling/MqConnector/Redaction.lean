/-
This file models the redaction of the dead-letter queue: the rule engine of
`internal/dlq/redact.go`, and `GetRaw` beside the `Push` and `Retry` of the service.

A row that was redacted should show the rules' output and keep the payload sealed, so that
`GetRaw` and `Retry` still find it, under whatever keys are added later. `Encrypt` leaves a
payload alone that already starts with the mark of a ciphertext. This is the only way
redaction fails.
-/

import Mathlib.Data.List.TakeWhile
import MqConnector.Retries
import MqConnector.RetryTable
import MqConnector.SecretRotation

namespace MqConnector

/-! ### JSON paths -/

/-- A decoded JSON document; the names of an object are distinct. -/
inductive JsonValue
  | null
  | bool (value : Bool)
  | number (literal : String)
  | string (text : String)
  | array (items : List JsonValue)
  | object (fields : List (String × JsonValue))

/-- A step of a path of a redaction rule. -/
inductive PathSegment
  | root
  | recursive (key : String)
  | key (key : String)
  | wildcard
  | index (index : Int)
  deriving DecidableEq

def trimDot : List Char → List Char
  | '.' :: rest => rest
  | text => text

theorem length_trimDot_le (text : List Char) : (trimDot text).length ≤ text.length := by
  unfold trimDot
  split
  · exact Nat.le_succ _
  · exact Nat.le_refl _

/-- The digits of an index, read into an `int`: −1 when one of them is none. -/
def indexDigits (digits : List Char) : Int :=
  if digits.all fun char => '0' ≤ char ∧ char ≤ '9' then
    digits.foldl (fun index char => Int.bmod (index * 10 + (char.toNat - 48 : Nat)) (2 ^ 64)) 0
  else -1

/-- What stands between brackets: a wildcard, a quoted key or an index. -/
def bracketSegment (body : List Char) : PathSegment :=
  match body with
  | ['*'] => .wildcard
  | '-' :: digits => .index (Int.bmod (-indexDigits digits) (2 ^ 64))
  | digits => .index (indexDigits digits)

/-- One round of the loop of `parsePath`: the segment in front and what follows it. -/
def nextSegment : List Char → Option (PathSegment × List Char)
  | [] => none
  | '[' :: rest =>
    match rest.dropWhile (· != ']') with
    | [] => none
    | _ :: after => some (bracketSegment (rest.takeWhile (· != ']')), trimDot after)
  | first :: rest =>
    let name := (first :: rest).takeWhile fun char => char != '.' && char != '['
    match (first :: rest).dropWhile fun char => char != '.' && char != '[' with
    | [] => some (.key (String.ofList name), [])
    | after => some (.key (String.ofList name), trimDot after)

theorem length_of_nextSegment {path rest : List Char} {segment : PathSegment}
    (found : nextSegment path = some (segment, rest)) : rest.length < path.length := by
  unfold nextSegment at found
  split at found
  · cases found
  · rename_i tail
    split at found
    · cases found
    · rename_i after bracketed
      obtain rfl := (Prod.mk.inj (Option.some.inj found)).2
      have shorter := List.length_dropWhile_le (· != ']') tail
      have trimmed := length_trimDot_le after
      rw [bracketed, List.length_cons] at shorter
      rw [List.length_cons]
      omega
  · rename_i first tail bracket
    dsimp only at found
    split at found
    · obtain rfl := (Prod.mk.inj (Option.some.inj found)).2
      exact Nat.succ_pos _
    · obtain rfl := (Prod.mk.inj (Option.some.inj found)).2
      have shorter := List.length_dropWhile_le (fun char => char != '.' && char != '[') tail
      have trimmed := length_trimDot_le (tail.dropWhile fun char => char != '.' && char != '[')
      -- a name that starts with a dot is empty, and the dot is dropped
      by_cases dot : first = '.'
      · rw [dot]
        exact Nat.lt_succ_self _
      · rw [List.dropWhile_cons_of_pos (by simpa [dot] using fun same => bracket same), List.length_cons]
        omega

/-- The loop of `parsePath`. -/
def parseSegments (path : List Char) : List PathSegment :=
  match _ : nextSegment path with
  | none => []
  | some (segment, rest) => segment :: parseSegments rest
termination_by path.length
decreasing_by
  rename_i found
  exact length_of_nextSegment found

/-- The steps of a path. -/
def parsePath (path : String) : List PathSegment :=
  match path.toList with
  | [] => []
  | ['$'] => [.root]
  | '$' :: '.' :: '.' :: key => [.recursive (String.ofList key)]
  | '.' :: '.' :: key => [.recursive (String.ofList key)]
  | '$' :: rest => parseSegments (trimDot rest)
  | rest => parseSegments (trimDot rest)

mutual

/-- `walkRecursive`: the document with every value of this name replaced, and whether there was one. -/
def walkRecursive (mask : JsonValue) (key : String) : JsonValue → JsonValue × Bool
  | .array items =>
    let walked := walkItems mask key items
    (.array walked.1, walked.2)
  | .object fields =>
    let walked := walkFields mask key fields
    (.object walked.1, walked.2)
  | node => (node, false)

/-- A recursive descent into the items of an array. -/
def walkItems (mask : JsonValue) (key : String) : List JsonValue → List JsonValue × Bool
  | [] => ([], false)
  | item :: items =>
    let first := walkRecursive mask key item
    let others := walkItems mask key items
    (first.1 :: others.1, first.2 || others.2)

/-- A recursive descent into the fields of an object. -/
def walkFields (mask : JsonValue) (key : String) :
    List (String × JsonValue) → List (String × JsonValue) × Bool
  | [] => ([], false)
  | (name, value) :: fields =>
    let first := if name = key then (mask, true) else walkRecursive mask key value
    let others := walkFields mask key fields
    ((name, first.1) :: others.1, first.2 || others.2)

end

/-- `walkPath`: the document with the values at the path replaced, and whether there was one. -/
def walkPath (mask : JsonValue) : List PathSegment → JsonValue → JsonValue × Bool
  | [], node => (node, false)
  | segment :: rest, node =>
    let replaced (value : JsonValue) : JsonValue × Bool :=
      if rest = [] then (mask, true) else walkPath mask rest value
    match segment, node with
    | .root, _ => (mask, true)
    | .recursive key, node => walkRecursive mask key node
    | .key key, .object fields =>
      let walked := fields.map fun field =>
        (field.1, if field.1 = key then replaced field.2 else (field.2, false))
      (.object (walked.map fun field => (field.1, field.2.1)), walked.any fun field => field.2.2)
    | .wildcard, .array items =>
      let walked := items.map replaced
      (.array (walked.map Prod.fst), walked.any Prod.snd)
    | .index index, .array items =>
      let index := if index < 0 then items.length + index else index
      if index < 0 then (node, false)
      else
        match items[index.toNat]? with
        | none => (node, false)
        | some item => (.array (items.set index.toNat (replaced item).1), (replaced item).2)
    | _, node => (node, false)

/-! ### The rule engine -/

/-- `DLQRedactionRule`, as far as the engine reads it. -/
structure DLQRedactionRule where
  ruleKind : String
  pattern : String
  maskReplace : String := ""
  enabled : Bool := true
  deriving DecidableEq

/-- `[]byte(text)`. -/
def utf8Bytes (text : String) : Bytes :=
  text.toList.flatMap String.utf8EncodeChar

/-- What the engine uses of `regexp` and `encoding/json`: a compiled pattern replaces all its
matches in a text by a mask. -/
structure RedactionLibrary where
  compileRegex : String → Option (Bytes → Bytes → Bytes)
  unmarshal : Bytes → Option JsonValue
  marshal : JsonValue → Option Bytes

namespace RedactionLibrary

variable (library : RedactionLibrary)

/-- The payload with the masked path, if anything was masked. -/
def applyJSONPath (payload : Bytes) (path mask : String) : Option Bytes :=
  if payload = [] then none
  else
    (library.unmarshal payload).bind fun root =>
      let walked := walkPath (.string mask) (parsePath path) root
      if walked.2 then library.marshal walked.1 else none

/-- One round of the loop of `Apply`. -/
def applyRule (progress : Bytes × Bool) (rule : DLQRedactionRule) : Bytes × Bool :=
  if rule.enabled = false then progress
  else
    let mask := if rule.maskReplace = "" then "[REDACTED]" else rule.maskReplace
    if rule.ruleKind = "regex" then
      match library.compileRegex rule.pattern with
      | none => progress
      | some replaceAll =>
        let replaced := replaceAll progress.1 (utf8Bytes mask)
        if replaced = progress.1 then progress else (replaced, true)
    else if rule.ruleKind = "jsonpath" then
      match library.applyJSONPath progress.1 rule.pattern mask with
      | none => progress
      | some replaced => (replaced, true)
    else progress

/-- The rules one after another, and whether any has changed the payload. -/
def apply (payload : Bytes) (rules : List DLQRedactionRule) : Bytes × Bool :=
  rules.foldl library.applyRule (payload, false)

/-- The redacted payload, if a rule changed it. -/
def redact (rules : List DLQRedactionRule) (payload : Bytes) : Option Bytes :=
  let applied := library.apply payload rules
  if applied.2 then some applied.1 else none

end RedactionLibrary

/-! ### Raw payloads -/

/-- The errors of `GetRaw`. -/
inductive RawError
  | notFound
  | rawNotAvailable
  | sealerUnavailable
  | decryptRaw
  deriving DecidableEq

namespace DlqService

variable {World Document Key Rule : Type} (service : DlqService World Document Key Rule)

/-- `Service.GetRaw` of a row that can be read. -/
def getRaw (state : DlqState World Key Rule) (tenantID id : String) : Except RawError Bytes :=
  match state.get tenantID id with
  | none => .error .notFound
  | some held =>
    if held.row.redacted = false ∨ held.row.rawMsg = [] then .error .rawNotAvailable
    else
      match state.keys with
      | none => .error .sealerUnavailable
      | some ring =>
        match ring.decrypt service.cipher held.row.rawMsg with
        | none => .error .decryptRaw
        | some plain => .ok plain

/-- Every retry of the row that gets as far as its destination sends this payload, and no retry
sends another. -/
def RetrySends (state : DlqState World Key Rule) (tenantID id : String) (payload : Bytes) : Prop :=
  ∀ answers world,
    (service.retry state tenantID id answers world).2.log.map Sent.payload =
      state.log.map Sent.payload ++
        match service.loadRetry state tenantID id answers with
        | .error _ => []
        | .ok (_, pipeline) =>
          if (retryDestination state tenantID pipeline answers).isSome then [payload] else []

/-- Nothing is lost and nothing is shown: the row has the payload in the clear and is not redacted,
or it has the rules' output and keeps the payload where only `GetRaw` and `Retry` find it. -/
def Redacts (state : DlqState World Key Rule) (rules : List Rule) (payload : Bytes) (row : DLQRow) : Prop :=
  (row.redacted = false ∧ row.entry.originalMsg = payload) ∨
  (row.redacted = true ∧ service.redact rules payload = some row.entry.originalMsg ∧
    row.rawMsg ≠ payload ∧ service.getRaw state row.entry.tenantID row.id = .ok payload ∧
    service.RetrySends state row.entry.tenantID row.id payload)

/-- A push redacts its payload: the rules of the pipeline could be read, there is a master key, and a
rule changes the payload. -/
def RulesApply (state : DlqState World Key Rule) (entry : DLQEntry) (answers : PushAnswers) : Prop :=
  entry.pipelineID ≠ "" ∧ answers.rulesRead = true ∧ state.rules entry.pipelineID ≠ [] ∧
    state.keys.isSome ∧ (service.redact (state.rules entry.pipelineID) entry.originalMsg).isSome

end DlqService

/-- Keys are added in their order. -/
def DlqState.rotated {World Key Rule : Type} (state : DlqState World Key Rule)
    (rotations : List (Nat × Key)) : DlqState World Key Rule :=
  { state with keys := rotations.foldl (fun keys rotation => Secrets.addKey keys rotation.1 rotation.2) state.keys }

section Pushed

variable {World Document Key Rule : Type} {service : DlqService World Document Key Rule}
  {state : DlqState World Key Rule} {entry : DLQEntry} {answers : PushAnswers}

theorem pushedRow_cases (service : DlqService World Document Key Rule) (state : DlqState World Key Rule)
    (entry : DLQEntry) (answers : PushAnswers) :
    ((service.pushedRow state entry answers).redacted = false ∧
      (service.pushedRow state entry answers).entry.originalMsg = entry.originalMsg ∧
      (service.RulesApply state entry answers → encryptedPrefix.isPrefixOf entry.originalMsg = false)) ∨
    ((service.pushedRow state entry answers).redacted = true ∧
      service.redact (state.rules entry.pipelineID) entry.originalMsg =
        some (service.pushedRow state entry answers).entry.originalMsg ∧
      service.RulesApply state entry answers) := by
  unfold DlqService.pushedRow
  dsimp only
  split
  · rename_i unread
    refine Or.inl ⟨rfl, rfl, fun applies => ?_⟩
    obtain ⟨named, read, ruled, -⟩ := applies
    rcases unread with unnamed | unread | none
    · exact absurd unnamed named
    · rw [read] at unread
      cases unread
    · exact absurd none ruled
  · rename_i read
    push Not at read
    unfold DlqService.applyRedaction
    dsimp only
    split
    · rename_i empty
      refine Or.inl ⟨rfl, rfl, fun _ => ?_⟩
      rw [empty]
      rfl
    · rename_i nonempty
      split
      · rename_i ring redacted keyed changed
        split
        · rename_i failed
          refine Or.inl ⟨rfl, rfl, fun _ => ?_⟩
          unfold KeyRing.encrypt at failed
          rw [if_neg nonempty] at failed
          split at failed
          · cases failed
          · rename_i unmarked
            exact Bool.eq_false_iff.mpr unmarked
        · refine Or.inr ⟨rfl, changed, read.1, ?_, read.2.2, ?_, ?_⟩
          · exact Bool.eq_true_of_not_eq_false read.2.1
          · rw [keyed]
            rfl
          · rw [changed]
            rfl
      · rename_i otherwise
        refine Or.inl ⟨rfl, rfl, fun applies => ?_⟩
        obtain ⟨ring, keyed⟩ := Option.isSome_iff_exists.mp applies.2.2.2.1
        obtain ⟨redacted, changed⟩ := Option.isSome_iff_exists.mp applies.2.2.2.2
        exact absurd changed (otherwise ring redacted keyed)

theorem holdsMessage_rotated {cipher : Cipher Key} {keys : Option (KeyRing Key)} {held : HeldRow}
    (holds : HoldsMessage cipher keys held) (rotations : List (Nat × Key)) :
    HoldsMessage cipher (rotations.foldl (fun keys rotation => Secrets.addKey keys rotation.1 rotation.2) keys)
      held := by
  induction rotations generalizing keys with
  | nil => exact holds
  | cons rotation rotations hypothesis =>
    exact hypothesis (holdsMessage_addKey rotation.1 rotation.2 holds)

theorem push_rows_of_fresh (inserted : answers.inserted = true)
    (fresh : ∀ held ∈ state.rows, held.row.id ≠ answers.id) :
    (service.push state entry answers).rows =
      state.rows ++ [{ row := service.pushedRow state entry answers, message := entry.originalMsg }] := by
  unfold DlqService.push
  rw [if_neg]
  rintro (failed | taken)
  · rw [inserted] at failed
    cases failed
  · obtain ⟨held, member, same⟩ := List.any_eq_true.mp taken
    exact fresh held member (of_decide_eq_true same)

theorem get_pushedRow (inserted : answers.inserted = true)
    (fresh : ∀ held ∈ state.rows, held.row.id ≠ answers.id) (rotations : List (Nat × Key)) :
    ((service.push state entry answers).rotated rotations).get
        (service.pushedRow state entry answers).entry.tenantID (service.pushedRow state entry answers).id =
      some { row := service.pushedRow state entry answers, message := entry.originalMsg } := by
  obtain ⟨id, tenant, -⟩ := @pushedRow_columns World Document Key Rule state service entry answers
  unfold DlqState.get DlqState.rotated
  rw [if_neg tenant]
  dsimp only
  rw [push_rows_of_fresh inserted fresh, List.find?_append, List.find?_eq_none.mpr, Option.none_or, List.find?_singleton, if_pos (by simp)]
  intro held member
  have other := fresh held member
  rw [← id] at other
  simp [other]

theorem retryPayload_rotated (service : DlqService World Document Key Rule) (state : DlqState World Key Rule)
    (entry : DLQEntry) (answers : PushAnswers)
    (unmarked : encryptedPrefix.isPrefixOf entry.originalMsg = false) (rotations : List (Nat × Key)) :
    service.retryPayload ((service.push state entry answers).rotated rotations).keys
      (service.pushedRow state entry answers) = some entry.originalMsg := by
  have keys : (service.push state entry answers).keys = state.keys := by
    unfold DlqService.push
    split
    · rfl
    · rfl
  have holds := holdsMessage_rotated (pushedRow_holds service state entry answers) rotations
  unfold DlqState.rotated
  rw [keys]
  refine (retryPayload_eq_restored service _ _ holds).trans ?_
  unfold restored
  rw [unmarked, Bool.and_false, if_neg Bool.false_ne_true]

section Found

variable {tenantID id : String} {held : HeldRow} (found : state.get tenantID id = some held)
  (payload : Bytes) (restores : service.retryPayload state.keys held.row = some payload)
include found restores

theorem getRaw_of_retryPayload (redacted : held.row.redacted = true) (raw : held.row.rawMsg ≠ []) :
    service.getRaw state tenantID id = .ok payload := by
  unfold DlqService.retryPayload at restores
  rw [redacted, if_pos (by simpa using raw)] at restores
  obtain ⟨ring, keyed, opened⟩ := Option.bind_eq_some_iff.mp restores
  unfold DlqService.getRaw
  rw [found]
  dsimp only
  rw [if_neg (by simp [redacted, raw]), keyed]
  dsimp only
  rw [opened]

theorem retrySends_of_retryPayload : service.RetrySends state tenantID id payload := by
  intro answers world
  rw [DlqService.retry_log, List.map_append]
  congr 1
  unfold DlqService.handedOver
  rcases loaded : service.loadRetry state tenantID id answers with result | ⟨other, pipeline⟩
  · rfl
  · obtain rfl : other = held :=
      Option.some.inj ((DlqService.get_of_loadRetry loaded).symm.trans found)
    dsimp only
    rw [restores]
    rcases DlqService.retryDestination state tenantID pipeline answers with _ | destination
    · rfl
    · rfl

end Found

/-- A push redacts, unless the message looks sealed already and a rule applies. -/
theorem redacts_iff (inserted : answers.inserted = true)
    (fresh : ∀ held ∈ state.rows, held.row.id ≠ answers.id) (rotations : List (Nat × Key)) :
    service.Redacts ((service.push state entry answers).rotated rotations) (state.rules entry.pipelineID)
        entry.originalMsg (service.pushedRow state entry answers) ↔
      ¬ (encryptedPrefix.isPrefixOf entry.originalMsg = true ∧ service.RulesApply state entry answers) := by
  have found := @get_pushedRow World Document Key Rule service state entry answers inserted fresh rotations
  have holds := pushedRow_holds service state entry answers
  rcases pushedRow_cases service state entry answers with ⟨clear, same, unmarked⟩ | ⟨redacted, output, applies⟩
  · refine iff_of_true (Or.inl ⟨clear, same⟩) fun marked => ?_
    exact absurd marked.1 (by rw [unmarked marked.2]; decide)
  · rcases holds with ⟨clear, -⟩ | ⟨-, raw, ⟨marked, same⟩ | ⟨unmarked, sealed⟩⟩
    · exact absurd redacted (by rw [show (service.pushedRow state entry answers).redacted = false from clear]; decide)
    · refine iff_of_false ?_ fun condition => condition ⟨marked, applies⟩
      rintro (⟨clear, -⟩ | ⟨-, -, hidden, -⟩)
      · exact absurd redacted (by rw [clear]; decide)
      · exact hidden same
    · refine iff_of_true (Or.inr ⟨redacted, output, ?_, ?_⟩) fun marked => ?_
      · obtain ⟨ring, version, key, nonce, -, -, -, same⟩ := sealed
        intro shown
        have prefixed := service.cipher.sealText_prefix key version nonce entry.originalMsg
        rw [← same, shown] at prefixed
        exact absurd (List.isPrefixOf_iff_prefix.mpr prefixed) (by rw [unmarked]; decide)
      · have restores := retryPayload_rotated service state entry answers unmarked rotations
        exact ⟨getRaw_of_retryPayload found entry.originalMsg restores redacted raw,
          retrySends_of_retryPayload found entry.originalMsg restores⟩
      · exact absurd marked.1 (by rw [unmarked]; decide)

end Pushed

/-! ### The service with its rule engine and its sealer -/

section Service

variable {World Document Key : Type}

/-- `NewService` with a `secrets.Service` as its sealer. -/
def newService (aead : Secrets.Aead Key) (library : RedactionLibrary) (maxRetries : Int)
    (builder : StageBuilder World Document) (payloadHash : Bytes → String) :
    DlqService World Document Key DLQRedactionRule where
  maxRetries := if maxRetries ≤ 0 then 3 else maxRetries.toNat
  cipher := Secrets.cipher aead
  redact := library.redact
  builder := builder
  payloadHash := payloadHash

/-- Redaction loses nothing and shows nothing, whatever keys are added later, exactly when the push
does not redact a payload that starts with the mark of a ciphertext. -/
theorem push_redacts_iff (aead : Secrets.Aead Key) (library : RedactionLibrary) (maxRetries : Int)
    (builder : StageBuilder World Document) (payloadHash : Bytes → String)
    (state : DlqState World Key DLQRedactionRule) (entry : DLQEntry) (answers : PushAnswers)
    (inserted : answers.inserted = true) (fresh : ∀ held ∈ state.rows, held.row.id ≠ answers.id)
    (rotations : List (Nat × Key)) :
    let service := newService aead library maxRetries builder payloadHash
    let later := (service.push state entry answers).rotated rotations
    ∃ row, later.rows = state.rows ++ [{ row := row, message := entry.originalMsg }] ∧
      (service.Redacts later (state.rules entry.pipelineID) entry.originalMsg row ↔
        ¬ (encryptedPrefix.isPrefixOf entry.originalMsg = true ∧ service.RulesApply state entry answers)) := by
  intro service later
  exact ⟨service.pushedRow state entry answers, push_rows_of_fresh inserted fresh,
    redacts_iff inserted fresh rotations⟩

end Service

section Instances

/-- A library that knows patterns of one character, and no JSON. -/
def letterLibrary : RedactionLibrary where
  compileRegex pattern :=
    match utf8Bytes pattern with
    | [letter] => some fun text mask => text.flatMap fun byte => if byte = letter then mask else [byte]
    | _ => none
  unmarshal _ := none
  marshal _ := none

def letterService : DlqService Unit Unit UInt8 DLQRedactionRule :=
  newService Secrets.toyAead letterLibrary 0 DlqService.gateService.builder DlqService.gateService.payloadHash

/-- Pipeline `p` masks every `x`. -/
def letterState : DlqState Unit UInt8 DLQRedactionRule where
  store := DlqService.gateStore []
  rules _ := [{ ruleKind := "regex", pattern := "x", maskReplace := "-" }]
  keys := some Secrets.toyRing

def letterEntry (payload : Bytes) : DLQEntry :=
  { DlqService.gateEntry with originalMsg := payload }

def letterAnswers : PushAnswers where
  now := 0
  id := "d"
  nonce := some Secrets.toyNonce.bytes

/-- `enc:x` is redacted to `enc:-` and stored in the clear beside it, and `GetRaw` cannot read it. -/
theorem marked_payload_stored_clear :
    let later := letterService.push letterState (letterEntry (encryptedPrefix ++ [120])) letterAnswers
    ∃ row, later.rows = [{ row := row, message := encryptedPrefix ++ [120] }] ∧
      row.redacted = true ∧ row.entry.originalMsg = encryptedPrefix ++ [45] ∧
      row.rawMsg = encryptedPrefix ++ [120] ∧ letterService.getRaw later "t" "d" = .error .decryptRaw ∧
      ¬ letterService.Redacts later (letterState.rules "p") (encryptedPrefix ++ [120]) row := by
  refine ⟨letterService.pushedRow letterState (letterEntry (encryptedPrefix ++ [120])) letterAnswers, rfl, by decide,
    by decide, by decide, by decide, ?_⟩
  rintro (⟨clear, -⟩ | ⟨-, -, hidden, -⟩)
  · exact absurd clear (by decide)
  · exact absurd hidden (by decide)

/-- `ax` is redacted, and can be read after a rotation. -/
theorem push_redacts_letter :
    let later := (letterService.push letterState (letterEntry [97, 120]) letterAnswers).rotated [(2, 9)]
    ∃ row, later.rows = [{ row := row, message := [97, 120] }] ∧ row.redacted = true ∧
      letterService.Redacts later (letterState.rules "p") [97, 120] row := by
  obtain ⟨row, added, redacts⟩ := push_redacts_iff Secrets.toyAead letterLibrary 0 DlqService.gateService.builder
    DlqService.gateService.payloadHash letterState (letterEntry [97, 120]) letterAnswers rfl
    (fun held member => absurd member List.not_mem_nil) [(2, 9)]
  refine ⟨row, added, ?_, redacts.mpr fun marked => absurd marked.1 (by decide)⟩
  have same : row = letterService.pushedRow letterState (letterEntry [97, 120]) letterAnswers := by
    injection added with first
    injection first with row
    exact row.symm
  rw [same]
  decide

end Instances

end MqConnector
