/-
This file compares a retry with the live pipeline: what `Service.Retry` hands to
`SendMessage` should be the body the stages make of the original message, sent
where the live executor would send it.

A row keeps the original message, or a redacted form of it beside the sealed
original. There is one way out of this: `Encrypt` leaves a message alone that
already starts with the mark of a ciphertext, and `Decrypt` will open it.

`Retry` runs no stage and follows no route, and it sends over the connector that the pool has kept
for the row, whatever the destination is now.
-/

import MqConnector.Dlq

namespace MqConnector

variable {World Document Key Rule : Type}

/-! ### What a row stands for -/

/-- The row keeps its message: in the clear, or sealed under a key of the ring beside a
redacted form. A message that looks like a ciphertext is kept as it is. -/
def HoldsMessage (cipher : Cipher Key) (keys : Option (KeyRing Key)) (held : HeldRow) : Prop :=
  (held.row.redacted = false ∧ held.row.entry.originalMsg = held.message) ∨
  (held.row.redacted = true ∧ held.row.rawMsg ≠ [] ∧
    ((encryptedPrefix.isPrefixOf held.message = true ∧ held.row.rawMsg = held.message) ∨
      (encryptedPrefix.isPrefixOf held.message = false ∧ ∃ ring version key nonce,
        keys = some ring ∧ ring.keys version = some key ∧ nonce.length = cipher.nonceSize ∧
          held.row.rawMsg = cipher.sealText key version nonce held.message)))

/-- The bytes a retry reads back of a message: the message itself, unless the row was redacted
and the message starts with the mark of a ciphertext, which is then opened. -/
def restored (cipher : Cipher Key) (keys : Option (KeyRing Key)) (redacted : Bool)
    (message : Bytes) : Option Bytes :=
  if redacted && encryptedPrefix.isPrefixOf message then
    keys.bind fun ring => cipher.openText ring.keys message
  else some message

theorem retryPayload_eq_restored (service : DlqService World Document Key Rule)
    (keys : Option (KeyRing Key)) (held : HeldRow)
    (holds : HoldsMessage service.cipher keys held) :
    service.retryPayload keys held.row =
      restored service.cipher keys held.row.redacted held.message := by
  unfold DlqService.retryPayload restored
  rcases holds with ⟨clear, same⟩ | ⟨redacted, raw, ⟨marked, same⟩ |
    ⟨unmarked, ring, version, key, nonce, rfl, known, sized, same⟩⟩
  · rw [clear, same]
    rfl
  · rw [redacted, marked, Bool.true_and, Bool.and_self, if_pos rfl, if_pos (by simpa using raw),
      same]
    have opens : ∀ ring : KeyRing Key, ring.decrypt service.cipher held.message =
        service.cipher.openText ring.keys held.message := fun ring => by
      unfold KeyRing.decrypt
      rw [if_pos marked]
    exact congrArg keys.bind (funext opens)
  · rw [redacted, unmarked, if_pos (by simpa using raw), if_neg (by simp), Option.bind_some]
    unfold KeyRing.decrypt
    rw [same, if_pos (List.isPrefixOf_iff_prefix.mpr (service.cipher.sealText_prefix _ _ _ _)),
      service.cipher.openText_sealText _ _ _ _ _ known (ring.versioned _ _ known) sized]

/-! ### Rows keep their messages -/

theorem encrypt_eq_some (cipher : Cipher Key) (ring : KeyRing Key) {nonce : Option Bytes}
    {text sealed : Bytes} (nonempty : text ≠ []) (given : ring.encrypt cipher nonce text = some sealed) :
    (encryptedPrefix.isPrefixOf text = true ∧ sealed = text) ∨
      (encryptedPrefix.isPrefixOf text = false ∧ ∃ used ∈ nonce, used.length = cipher.nonceSize ∧
        sealed = cipher.sealText ring.key ring.current used text) := by
  unfold KeyRing.encrypt at given
  rw [if_neg nonempty] at given
  split at given
  · rename_i marked
    exact Or.inl ⟨marked, (Option.some.inj given).symm⟩
  · rename_i unmarked
    obtain ⟨used, member, rfl⟩ := Option.map_eq_some_iff.mp given
    obtain ⟨known, sized⟩ := Option.filter_eq_some_iff.mp member
    exact Or.inr ⟨Bool.eq_false_iff.mpr unmarked, used, known, of_decide_eq_true sized, rfl⟩

theorem sealText_ne_nil (cipher : Cipher Key) (key : Key) (version : Nat) (nonce text : Bytes) :
    cipher.sealText key version nonce text ≠ [] := by
  intro empty
  have marked := cipher.sealText_prefix key version nonce text
  rw [empty] at marked
  exact absurd (List.prefix_nil.mp marked) (by decide)

theorem applyRedaction_holds (service : DlqService World Document Key Rule)
    (keys : Option (KeyRing Key)) (rules : List Rule) (nonce : Option Bytes) (row : DLQRow)
    (clear : row.redacted = false) :
    HoldsMessage service.cipher keys
      { row := service.applyRedaction keys rules nonce row, message := row.entry.originalMsg } := by
  unfold DlqService.applyRedaction
  split
  · exact Or.inl ⟨clear, rfl⟩
  · rename_i nonempty
    split
    · rename_i ring redacted _
      split
      · exact Or.inl ⟨clear, rfl⟩
      · rename_i sealed given
        rcases encrypt_eq_some service.cipher ring nonempty given with ⟨marked, rfl⟩ |
          ⟨unmarked, used, -, sized, rfl⟩
        · exact Or.inr ⟨rfl, nonempty, Or.inl ⟨marked, rfl⟩⟩
        · exact Or.inr ⟨rfl, sealText_ne_nil service.cipher _ _ _ _, Or.inr ⟨unmarked, ring, ring.current,
            ring.key, used, rfl, ring.held, sized, rfl⟩⟩
    · exact Or.inl ⟨clear, rfl⟩

theorem pushedRow_holds (service : DlqService World Document Key Rule)
    (state : DlqState World Key Rule) (entry : DLQEntry) (answers : PushAnswers) :
    HoldsMessage service.cipher state.keys
      { row := service.pushedRow state entry answers, message := entry.originalMsg } := by
  unfold DlqService.pushedRow
  dsimp only
  split
  · exact Or.inl ⟨rfl, rfl⟩
  · exact applyRedaction_holds service state.keys _ _ _ rfl

theorem holdsMessage_addKey {cipher : Cipher Key} {keys : Option (KeyRing Key)} {held : HeldRow}
    (version : Nat) (key : Key) (holds : HoldsMessage cipher keys held) :
    HoldsMessage cipher (keys.map fun ring => ring.addKey version key) held := by
  rcases holds with clear | ⟨redacted, raw, marked | ⟨unmarked, ring, old, known, nonce, rfl,
    present, sized, same⟩⟩
  · exact Or.inl clear
  · exact Or.inr ⟨redacted, raw, Or.inl marked⟩
  · exact Or.inr ⟨redacted, raw, Or.inr ⟨unmarked, _, old, known, nonce, rfl,
      KeyRing.addKey_keys ring version key present, sized, same⟩⟩

def RowsHold (service : DlqService World Document Key Rule) (state : DlqState World Key Rule) :
    Prop :=
  ∀ held ∈ state.rows, HoldsMessage service.cipher state.keys held

section Kept

variable {service : DlqService World Document Key Rule} {state : DlqState World Key Rule}

theorem rowsHold_updateRow (tenantID id : String) (change : DLQRow → DLQRow)
    (content : ∀ row, (change row).entry = row.entry ∧ (change row).rawMsg = row.rawMsg ∧
      (change row).redacted = row.redacted)
    (holds : RowsHold service state) : RowsHold service (state.updateRow tenantID id change) := by
  intro held member
  obtain ⟨before, beforeMember, rfl⟩ := List.mem_map.mp member
  have kept := holds before beforeMember
  split
  · obtain ⟨entry, raw, redacted⟩ := content before.row
    unfold HoldsMessage at kept ⊢
    dsimp only
    rw [entry, raw, redacted]
    exact kept
  · exact kept

theorem rowsHold_filter (keep : HeldRow → Bool) (holds : RowsHold service state) :
    RowsHold service { state with rows := state.rows.filter keep } :=
  fun held member => holds held (List.mem_of_mem_filter member)

theorem rowsHold_incrementRetry (tenantID id : String) (holds : RowsHold service state) :
    RowsHold service (state.incrementRetry tenantID id) :=
  rowsHold_updateRow tenantID id _ (fun _ => ⟨rfl, rfl, rfl⟩) holds

theorem rowsHold_scheduleRetry (tenantID id : String) (next : Option Int)
    (holds : RowsHold service state) : RowsHold service (state.scheduleRetry tenantID id next) :=
  rowsHold_updateRow tenantID id _ (fun _ => ⟨rfl, rfl, rfl⟩) holds

theorem rowsHold_push (entry : DLQEntry) (answers : PushAnswers) (holds : RowsHold service state) :
    RowsHold service (service.push state entry answers) := by
  unfold DlqService.push
  split
  · exact holds
  · intro held member
    rcases List.mem_append.mp member with old | new
    · exact holds held old
    · rw [List.mem_singleton] at new
      rw [new]
      exact pushedRow_holds service state entry answers

theorem rowsHold_retry (tenantID id : String) (answers : RetryAnswers) (world : World)
    (holds : RowsHold service state) :
    RowsHold service (service.retry state tenantID id answers world).2 := by
  unfold DlqService.retry
  split
  · exact holds
  · have counted : RowsHold service
        (if answers.counted then state.incrementRetry tenantID id else state) := by
      split
      · exact rowsHold_incrementRetry tenantID id holds
      · exact holds
    obtain ⟨pooled, got⟩ := DlqService.retryGot_eq
      (if answers.counted then state.incrementRetry tenantID id else state) _
      (DlqService.retryConnection state tenantID _ answers) answers.connected
    dsimp only
    rw [got]
    split
    · exact counted
    · exact counted

theorem rowsHold_attemptOne (row : DLQRow) (answers : RetryAnswers) (world : World)
    (now jitter : Int) (written : Bool) (holds : RowsHold service state) :
    RowsHold service (service.attemptOne state row answers world now jitter written) := by
  unfold DlqService.attemptOne
  dsimp only
  split
  · exact rowsHold_scheduleRetry _ _ _ (rowsHold_retry _ _ answers world holds)
  · exact rowsHold_retry _ _ answers world holds

theorem rowsHold_bulkOne (tenantID id : String) (answers : RetryAnswers) (world : World)
    (deleted : Bool) (holds : RowsHold service state) :
    RowsHold service (service.bulkOne state tenantID id answers world deleted) := by
  unfold DlqService.bulkOne
  dsimp only
  split
  · exact rowsHold_filter _ (rowsHold_retry _ _ answers world holds)
  · exact rowsHold_retry _ _ answers world holds

/-- Every step keeps the rows as they were pushed. -/
theorem step_rowsHold {label : DlqLabel World Key Rule} {next : DlqState World Key Rule}
    (holds : RowsHold service state) (fired : service.step state label = some next) :
    RowsHold service next := by
  cases label with
  | push entry answers =>
    rw [DlqService.step, Option.some.injEq] at fired
    exact fired ▸ rowsHold_push entry answers holds
  | retry tenantID id answers world =>
    rw [DlqService.step, Option.some.injEq] at fired
    exact fired ▸ rowsHold_retry tenantID id answers world holds
  | startBulk job tenantID ids =>
    rw [DlqService.step, Option.ite_none_right_eq_some, Option.some.injEq] at fired
    exact fired.2 ▸ holds
  | bulkNext job answers world deleted =>
    rw [DlqService.step] at fired
    split at fired
    · rw [Option.some.injEq] at fired
      exact fired ▸ rowsHold_bulkOne _ _ answers world deleted holds
    · exact absurd fired (by simp)
  | startReap job now limit =>
    rw [DlqService.step, Option.ite_none_right_eq_some, Option.some.injEq] at fired
    exact fired.2 ▸ holds
  | reapNext job answers world now jitter written =>
    rw [DlqService.step] at fired
    split at fired
    · rw [Option.some.injEq] at fired
      exact fired ▸ rowsHold_attemptOne _ answers world now jitter written holds
    · exact absurd fired (by simp)
  | finish job =>
    rw [DlqService.step, Option.some.injEq] at fired
    exact fired ▸ holds
  | delete tenantID id =>
    rw [DlqService.step, Option.some.injEq] at fired
    exact fired ▸ rowsHold_filter _ holds
  | purge keep =>
    rw [DlqService.step, Option.some.injEq] at fired
    exact fired ▸ rowsHold_filter _ holds
  | write change =>
    rw [DlqService.step, Option.some.injEq] at fired
    exact fired ▸ holds
  | setRules pipelineID rules =>
    rw [DlqService.step, Option.some.injEq] at fired
    exact fired ▸ holds
  | addKey version key =>
    rw [DlqService.step, Option.some.injEq] at fired
    rw [← fired]
    exact fun held member => holdsMessage_addKey version key (holds held member)
  | unpool id =>
    rw [DlqService.step, Option.some.injEq] at fired
    exact fired ▸ holds

end Kept

/-! ### What a retry hands over -/

namespace DlqService

variable (service : DlqService World Document Key Rule)

/-- What a `Retry` hands to `SendMessage`. -/
def handedOver (state : DlqState World Key Rule) (tenantID id : String) (answers : RetryAnswers)
    (world : World) : Option (Sent World) :=
  match service.loadRetry state tenantID id answers with
  | .error _ => none
  | .ok (held, pipeline) =>
    match retryDestination state tenantID pipeline answers,
        service.retryPayload state.keys held.row with
    | some destination, some payload =>
      some
        { payload := payload
          config := (state.pooled held.row.id).getD destination.toConfig
          message := held.message
          executor := Store.startPipeline service.builder service.payloadHash state.store pipeline
          world := world }
    | _, _ => none

theorem retry_log (state : DlqState World Key Rule) (tenantID id : String)
    (answers : RetryAnswers) (world : World) :
    (service.retry state tenantID id answers world).2.log =
      state.log ++ (service.handedOver state tenantID id answers world).toList := by
  have counted : (if answers.counted then state.incrementRetry tenantID id else state).log =
      state.log := by
    split
    · rfl
    · rfl
  have nothing : state.log = state.log ++ (none : Option (Sent World)).toList :=
    (List.append_nil _).symm
  unfold retry handedOver
  rcases service.loadRetry state tenantID id answers with result | ⟨held, pipeline⟩
  · exact nothing
  · obtain ⟨pooled, got⟩ := retryGot_eq (if answers.counted then state.incrementRetry tenantID id else state)
      held.row.id (retryConnection state tenantID pipeline answers) answers.connected
    dsimp only
    rw [got]
    rcases retryDestination state tenantID pipeline answers with _ | destination
    · exact counted.trans nothing
    · rcases service.retryPayload state.keys held.row with _ | payload
      · exact counted.trans nothing
      · dsimp only
        rw [counted]
        rfl

/-- What the step's `Retry`, if it makes one, hands over. -/
def stepSends (state : DlqState World Key Rule) (label : DlqLabel World Key Rule) :
    Option (Sent World) :=
  match retried state label with
  | none => none
  | some (tenantID, id, answers, world) => service.handedOver state tenantID id answers world

theorem attemptOne_log (state : DlqState World Key Rule) (row : DLQRow) (answers : RetryAnswers)
    (world : World) (now jitter : Int) (written : Bool) :
    (service.attemptOne state row answers world now jitter written).log =
      state.log ++ (service.handedOver state (reapTenant row) row.id answers world).toList := by
  rw [← retry_log]
  unfold attemptOne
  dsimp only
  split
  · rfl
  · rfl

theorem bulkOne_log (state : DlqState World Key Rule) (tenantID id : String)
    (answers : RetryAnswers) (world : World) (deleted : Bool) :
    (service.bulkOne state tenantID id answers world deleted).log =
      state.log ++ (service.handedOver state tenantID id answers world).toList := by
  rw [← retry_log]
  unfold bulkOne
  dsimp only
  split
  · rfl
  · rfl

/-- The log grows by the sends of a step. -/
theorem step_log {state next : DlqState World Key Rule} {label : DlqLabel World Key Rule}
    (fired : service.step state label = some next) :
    next.log = state.log ++ (service.stepSends state label).toList := by
  have silent : ∀ after : DlqState World Key Rule, some after = some next → after.log = state.log →
      next.log = state.log ++ (none : Option (Sent World)).toList := by
    intro after equal same
    rw [Option.some.injEq] at equal
    rw [← equal, same]
    exact (List.append_nil _).symm
  cases label with
  | push entry answers =>
    refine silent _ fired ?_
    unfold push
    split
    · rfl
    · rfl
  | retry tenantID id answers world =>
    rw [step, Option.some.injEq] at fired
    rw [← fired, retry_log]
    rfl
  | startBulk job tenantID ids =>
    rw [step, Option.ite_none_right_eq_some] at fired
    exact silent _ fired.2 rfl
  | bulkNext job answers world deleted =>
    rw [step] at fired
    unfold stepSends retried
    dsimp only
    split at fired
    · rename_i tenantID id rest _
      rw [Option.some.injEq] at fired
      rw [← fired]
      exact service.bulkOne_log state tenantID id answers world deleted
    · exact absurd fired (by simp)
  | startReap job now limit =>
    rw [step, Option.ite_none_right_eq_some] at fired
    exact silent _ fired.2 rfl
  | reapNext job answers world now jitter written =>
    rw [step] at fired
    unfold stepSends retried
    dsimp only
    split at fired
    · rename_i row rest _
      rw [Option.some.injEq] at fired
      rw [← fired]
      exact service.attemptOne_log state row answers world now jitter written
    · exact absurd fired (by simp)
  | finish job => exact silent _ fired rfl
  | delete tenantID id => exact silent _ fired rfl
  | purge keep => exact silent _ fired rfl
  | write change => exact silent _ fired rfl
  | setRules pipelineID rules => exact silent _ fired rfl
  | addKey version key => exact silent _ fired rfl
  | unpool id => exact silent _ fired rfl

end DlqService

/-! ### Retries against the live pipeline -/

/-- The payload is what the live executor's stages make of the message, and the connector is
the one destination the executor would send it to. A message the stages reject has no such
payload. -/
def Sent.Faithful (sent : Sent World) : Prop :=
  ∃ executor outcome, sent.executor = some executor ∧
    runStages sent.world executor.stages sent.message = .ok outcome ∧
    sent.payload = outcome.body ∧
    (targets outcome.route).map executor.resolve = [some sent.config]

namespace DlqService

variable (service : DlqService World Document Key Rule)

/-- The stored pipeline passes the row's message on as the row keeps it: `startPipeline` accepts
the pipeline, its stages accept the message and leave the bytes read back of the row, and the
one destination is that of the connector the pool holds for the row, or the default one where it
holds none. -/
def PassesOn (state : DlqState World Key Rule) (held : HeldRow) (pipeline : Pipeline)
    (world : World) : Prop :=
  ∃ executor outcome,
    Store.startPipeline service.builder service.payloadHash state.store pipeline = some executor ∧
    runStages world executor.stages held.message = .ok outcome ∧
    restored service.cipher state.keys held.row.redacted held.message = some outcome.body ∧
    (targets outcome.route).map executor.resolve =
      [some ((state.pooled held.row.id).getD executor.defaultDest)]

/-- When the step makes a `Retry` that comes to its send, the pipeline of the row passes the
row's message on. -/
def RetriesPassOn (state : DlqState World Key Rule) (label : DlqLabel World Key Rule) : Prop :=
  ∀ tenantID id answers world held pipeline,
    retried state label = some (tenantID, id, answers, world) →
    service.loadRetry state tenantID id answers = .ok (held, pipeline) →
    (retryDestination state tenantID pipeline answers).isSome = true →
    (restored service.cipher state.keys held.row.redacted held.message).isSome = true →
    service.PassesOn state held pipeline world

variable {service}

theorem get_of_loadRetry {state : DlqState World Key Rule} {tenantID id : String}
    {answers : RetryAnswers} {held : HeldRow} {pipeline : Pipeline}
    (loaded : service.loadRetry state tenantID id answers = .ok (held, pipeline)) :
    state.get tenantID id = some held := by
  unfold loadRetry at loaded
  split at loaded
  · exact absurd loaded (by simp)
  split at loaded
  · exact absurd loaded (by simp)
  rename_i found lookup
  split at loaded
  · exact absurd loaded (by simp)
  split at loaded
  · exact absurd loaded (by simp)
  split at loaded
  · exact absurd loaded (by simp)
  split at loaded
  · exact absurd loaded (by simp)
  rw [Except.ok.injEq, Prod.mk.injEq] at loaded
  rw [lookup, loaded.1]

theorem loadRetry_mem {state : DlqState World Key Rule} {tenantID id : String}
    {answers : RetryAnswers} {held : HeldRow} {pipeline : Pipeline}
    (loaded : service.loadRetry state tenantID id answers = .ok (held, pipeline)) :
    held ∈ state.rows := by
  have lookup := get_of_loadRetry loaded
  unfold DlqState.get at lookup
  split at lookup
  · exact absurd lookup (by simp)
  · exact List.mem_of_find?_eq_some lookup

theorem retryDestination_connection {state : DlqState World Key Rule} {tenantID : String}
    {pipeline : Pipeline} {answers : RetryAnswers} {destination : Connection}
    (found : retryDestination state tenantID pipeline answers = some destination) :
    state.store.connections pipeline.destinationID = some destination := by
  unfold retryDestination retryConnection at found
  split at found
  · split at found
    · exact (Option.filter_eq_some_iff.mp found).1
    · exact absurd found (by simp)
  · exact absurd found (by simp)

theorem handedOver_faithful_iff {state : DlqState World Key Rule} (holds : RowsHold service state)
    {tenantID id : String} {answers : RetryAnswers} {world : World} {held : HeldRow}
    {pipeline : Pipeline}
    (loaded : service.loadRetry state tenantID id answers = .ok (held, pipeline)) :
    (∀ sent ∈ service.handedOver state tenantID id answers world, sent.Faithful) ↔
      ((retryDestination state tenantID pipeline answers).isSome = true →
        (restored service.cipher state.keys held.row.redacted held.message).isSome = true →
        service.PassesOn state held pipeline world) := by
  have payload := retryPayload_eq_restored service state.keys held
    (holds held (loadRetry_mem loaded))
  unfold handedOver
  rw [loaded]
  dsimp only
  rw [payload]
  rcases found : retryDestination state tenantID pipeline answers with _ | destination
  · simp
  rcases back : restored service.cipher state.keys held.row.redacted held.message with _ | bytes
  · simp
  have connection := retryDestination_connection found
  -- both sides now speak of one executor, whose default destination is the connection found
  have sameDest : ∀ executor, Store.startPipeline service.builder service.payloadHash state.store
      pipeline = some executor → executor.defaultDest = destination.toConfig := by
    intro executor started
    obtain ⟨-, -, -, -, row, present, config⟩ := Store.startPipeline_eq started
    rw [connection, Option.some.injEq] at present
    rw [config, present]
  simp only [Option.mem_def, Option.some.injEq, forall_eq', Option.isSome_some, forall_const]
  unfold Sent.Faithful PassesOn
  dsimp only
  constructor
  · rintro ⟨executor, outcome, started, ran, body, destinations⟩
    exact ⟨executor, outcome, started, ran, by rw [back, body],
      by rw [destinations, sameDest _ started]⟩
  · rintro ⟨executor, outcome, started, ran, body, destinations⟩
    rw [back, Option.some.injEq] at body
    exact ⟨executor, outcome, started, ran, body, by rw [destinations, sameDest _ started]⟩

/-- The sends of a step are faithful exactly if its retries pass on. -/
theorem stepSends_faithful_iff {state : DlqState World Key Rule} (holds : RowsHold service state)
    (label : DlqLabel World Key Rule) :
    (∀ sent ∈ service.stepSends state label, sent.Faithful) ↔
      service.RetriesPassOn state label := by
  unfold stepSends RetriesPassOn
  rcases made : retried state label with _ | ⟨tenantID, id, answers, world⟩
  · simp
  dsimp only
  rcases loaded : service.loadRetry state tenantID id answers with result | ⟨held, pipeline⟩
  · have nothing : service.handedOver state tenantID id answers world = none := by
      unfold handedOver
      rw [loaded]
    rw [nothing]
    constructor
    · rintro - _ _ _ _ _ _ same otherLoaded
      rw [Option.some.injEq, Prod.mk.injEq, Prod.mk.injEq, Prod.mk.injEq] at same
      obtain ⟨rfl, rfl, rfl, rfl⟩ := same
      rw [loaded] at otherLoaded
      exact absurd otherLoaded (by simp)
    · rintro - sent impossible
      exact absurd impossible (by simp)
  · rw [handedOver_faithful_iff holds loaded]
    constructor
    · rintro passes _ _ _ _ _ _ same otherLoaded
      rw [Option.some.injEq, Prod.mk.injEq, Prod.mk.injEq, Prod.mk.injEq] at same
      obtain ⟨rfl, rfl, rfl, rfl⟩ := same
      rw [loaded, Except.ok.injEq, Prod.mk.injEq] at otherLoaded
      obtain ⟨rfl, rfl⟩ := otherLoaded
      exact passes
    · intro passes
      exact passes tenantID id answers world held pipeline rfl loaded

/-- The service before anything was pushed, over any tables, rules and keys. -/
def initial (store : Store) (rules : String → List Rule) (keys : Option (KeyRing Key)) :
    DlqState World Key Rule :=
  { store := store, rules := rules, keys := keys }

/-- In every run whose retries pass on, every payload handed to `SendMessage` is what the live
pipeline would have delivered; and from every state of such a run a step keeps it so if and
only if its retry passes on. -/
theorem retriesFaithful_of_passOn (service : DlqService World Document Key Rule) (store : Store)
    (rules : String → List Rule) (keys : Option (KeyRing Key)) (state : DlqState World Key Rule)
    (reached : Runs.Reaches service.step service.RetriesPassOn (initial store rules keys) state) :
    (∀ sent ∈ state.log, sent.Faithful) ∧
      ∀ label next, service.step state label = some next →
        ((∀ sent ∈ next.log, sent.Faithful) ↔ service.RetriesPassOn state label) := by
  have holds : RowsHold service state :=
    reached.invariant (RowsHold service) (fun held member => absurd member List.not_mem_nil)
      fun before label after kept _ fired => step_rowsHold kept fired
  have faithful : ∀ sent ∈ state.log, sent.Faithful := by
    refine (reached.invariant
      (fun state => RowsHold service state ∧ ∀ sent ∈ state.log, sent.Faithful) ?_ ?_).2
    · exact ⟨fun held member => absurd member List.not_mem_nil,
        fun sent member => absurd member List.not_mem_nil⟩
    · rintro before label after ⟨kept, faithful⟩ passes fired
      refine ⟨step_rowsHold kept fired, fun sent member => ?_⟩
      rw [service.step_log fired, List.mem_append, Option.mem_toList] at member
      rcases member with old | new
      · exact faithful sent old
      · exact (stepSends_faithful_iff kept label).mpr passes sent new
  refine ⟨faithful, fun label next fired => ?_⟩
  rw [service.step_log fired, ← stepSends_faithful_iff holds label]
  simp only [List.mem_append, Option.mem_toList]
  exact ⟨fun all sent new => all sent (Or.inr new), fun new sent member =>
    member.elim (faithful sent) (new sent)⟩

theorem passesOn_of_unstaged {state : DlqState World Key Rule} {held : HeldRow}
    {pipeline : Pipeline} {executor : Executor World} (world : World)
    (started : Store.startPipeline service.builder service.payloadHash state.store pipeline =
      some executor)
    (unstaged : executor.stages = []) (clear : held.row.redacted = false)
    (unpooled : state.pooled held.row.id = none) :
    service.PassesOn state held pipeline world := by
  refine ⟨executor, ⟨held.message, detect held.message, none, []⟩, started, ?_, ?_, by rw [unpooled]; rfl⟩
  · rw [unstaged]
    rfl
  · unfold restored
    rw [clear]
    rfl

/-! ### A rejected message is published -/

/-- A stage that passes everything on or, as a validate stage does, rejects everything. -/
def gateStage (kind : ContentStage) : Stage Unit where
  name := "validate"
  execute _ message format :=
    if kind = .validate then .error "missing required field"
    else .ok { body := message, format := some format, result := none }

/-- A service whose content stages are such gates. -/
def gateService : DlqService Unit Unit Unit Unit where
  maxRetries := 3
  cipher :=
    { nonceSize := 0
      sealText := fun _ _ _ text => encryptedPrefix ++ text
      openText := fun _ value => some (value.drop 4)
      sealText_prefix := fun _ _ _ text => List.prefix_append _ text
      openText_sealText := fun _ _ _ _ _ _ _ _ => rfl }
  redact _ _ := none
  builder :=
    { make := fun kind _ _ => .ok (gateStage kind)
      reader := { decodeStructured := fun _ _ => .ok (), matched := fun _ _ => false }
      silent := by
        intro kind rows row stage made world message format output result executed named
        rw [Except.ok.injEq] at made
        rw [← made] at executed
        simp only [gateStage] at executed
        split at executed
        · exact absurd executed (by simp)
        · rw [Except.ok.injEq] at executed
          rw [← executed] at named
          exact absurd named (by simp) }
  payloadHash _ := ""

/-- One pipeline from `src` to `dst` with the given stages. -/
def gateStore (stages : List StageRow) : Store where
  pipelines := [{ id := "p", tenantID := "t", sourceID := "src", destinationID := "dst" }]
  distinct := List.nodup_singleton _
  stages := stages
  transforms := []
  routingRules := []
  connections id :=
    if id = "src" ∨ id = "dst" then some { id := id, tenantID := "t", type := "kafka" } else none

/-- The entry of a message that failed in pipeline `p`. -/
def gateEntry : DLQEntry where
  tenantID := "t"
  pipelineID := "p"
  sourceQueue := ""
  originalMsg := [0x7b, 0x7d]
  errorReason := "validate: missing required field"

/-- The live pipeline would not have delivered the message, or not over this connector alone. -/
def goesAstray (sent : Sent World) : Bool :=
  match sent.executor with
  | none => true
  | some executor =>
    match runStages sent.world executor.stages sent.message with
    | .error _ => true
    | .ok outcome => (targets outcome.route).map executor.resolve ≠ [some sent.config]

theorem not_faithful_of_goesAstray {sent : Sent World} (astray : goesAstray sent = true) :
    ¬ sent.Faithful := by
  rintro ⟨executor, outcome, started, ran, -, destinations⟩
  rw [goesAstray, started] at astray
  dsimp only at astray
  rw [ran] at astray
  exact of_decide_eq_true astray destinations

/-- The destination of the pipeline, on another broker. -/
def movedRow : Connection where
  id := "dst"
  tenantID := "t"
  type := "kafka"
  url := "other:9092"

/-- A message the validate stage rejects is published by its retry; and after the destination has been moved, a second
retry still publishes over the connector of the first. -/
theorem rejected_message_published :
    (∃ state : DlqState Unit Unit Unit,
      Runs.Reachable gateService.step
        (initial (gateStore [{ tenantID := "t", pipelineID := "p", stageType := "validate" }])
          (fun _ => []) none) state ∧
      ∃ sent ∈ state.log, sent.payload = [0x7b, 0x7d] ∧ ¬ sent.Faithful) ∧
    ∃ state : DlqState Unit Unit Unit,
      Runs.Reachable gateService.step (initial (gateStore []) (fun _ => []) none) state ∧
      ∃ sent ∈ state.log, sent.config.url ≠ movedRow.url ∧ ¬ sent.Faithful := by
  constructor
  · obtain ⟨state, reached, tested⟩ := Runs.exists_reaches_of_exec gateService.step
      (fun _ _ => True)
      (initial (gateStore [{ tenantID := "t", pipelineID := "p", stageType := "validate" }])
        (fun _ => []) none) [.push gateEntry { now := 0, id := "r" }, .retry "t" "r" {} ()]
      (fun state => state.log.any fun sent => sent.payload = [0x7b, 0x7d] && goesAstray sent)
      (by decide)
    obtain ⟨sent, member, tested⟩ := List.any_eq_true.mp tested
    obtain ⟨payload, astray⟩ := Bool.and_eq_true_iff.mp tested
    exact ⟨state, reached, sent, member, of_decide_eq_true payload, not_faithful_of_goesAstray astray⟩
  · obtain ⟨state, reached, tested⟩ := Runs.exists_reaches_of_exec gateService.step (fun _ _ => True)
      (initial (gateStore []) (fun _ => []) none)
      [.push gateEntry { now := 0, id := "r" }, .retry "t" "r" { sent := false } (),
        .write (.updateConnection movedRow), .retry "t" "r" {} ()]
      (fun state => state.log.any fun sent => sent.config.url ≠ movedRow.url && goesAstray sent) (by decide)
    obtain ⟨sent, member, tested⟩ := List.any_eq_true.mp tested
    obtain ⟨former, astray⟩ := Bool.and_eq_true_iff.mp tested
    exact ⟨state, reached, sent, member, of_decide_eq_true former, not_faithful_of_goesAstray astray⟩

/-- Without stages the same retry delivers what the live pipeline would. -/
theorem unstaged_retry_faithful :
    ∃ state : DlqState Unit Unit Unit, state.log.length = 1 ∧ ∀ sent ∈ state.log, sent.Faithful := by
  let start : DlqState Unit Unit Unit := initial (gateStore []) (fun _ => []) none
  let pushed := gateService.push start gateEntry { now := 0, id := "r" }
  have pushPasses : gateService.RetriesPassOn start (.push gateEntry { now := 0, id := "r" }) := by
    intro tenantID id answers world held pipeline made
    exact absurd made (by simp [retried])
  have retryPasses : gateService.RetriesPassOn pushed (.retry "t" "r" {} ()) := by
    intro tenantID id answers world held pipeline made loaded _ _
    obtain ⟨rfl, rfl, rfl, rfl⟩ : tenantID = "t" ∧ id = "r" ∧ answers = {} ∧ world = () := by
      simpa [retried, eq_comm] using made
    have row : gateService.loadRetry pushed "t" "r" {} =
        .ok (⟨gateService.pushedRow start gateEntry { now := 0, id := "r" }, [0x7b, 0x7d]⟩,
          { id := "p", tenantID := "t", sourceID := "src", destinationID := "dst" }) := by rfl
    rw [row, Except.ok.injEq, Prod.mk.injEq] at loaded
    obtain ⟨rfl, rfl⟩ := loaded
    obtain ⟨executor, started⟩ := Option.isSome_iff_exists.mp (show (Store.startPipeline
      gateService.builder gateService.payloadHash pushed.store
      { id := "p", tenantID := "t", sourceID := "src", destinationID := "dst" }).isSome = true by
        decide)
    have unstaged : executor.stages.length = 0 := by
      have counted : (Store.startPipeline gateService.builder gateService.payloadHash pushed.store
          { id := "p", tenantID := "t", sourceID := "src", destinationID := "dst" }).map
          (fun executor => executor.stages.length) = some 0 := by decide
      rw [started] at counted
      exact Option.some.inj counted
    exact passesOn_of_unstaged () started (List.eq_nil_of_length_eq_zero unstaged) rfl rfl
  have reached : Runs.Reaches gateService.step gateService.RetriesPassOn
      (initial (gateStore []) (fun _ => []) none)
      (gateService.retry pushed "t" "r" {} ()).2 :=
    .next (.next .start pushPasses rfl) retryPasses rfl
  exact ⟨_, by decide, (retriesFaithful_of_passOn gateService (gateStore []) (fun _ => []) none _
    reached).1⟩

end DlqService

end MqConnector
