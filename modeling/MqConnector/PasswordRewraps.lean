/-
This file models the password column of `connections` (`internal/storage/connections.go`) under
`RewrapPasswords`, key rotations and the edits of any number of requests.

Every SQL statement is a step of its own. A rewrap reads all rows in one statement, and writes
each password back in another. Beside every row the model keeps the password its last `Create` or
`Update` gave; no step of the code reads it.

The write of a rewrap names the row by its id alone.
-/

import MqConnector.SecretRotation

namespace MqConnector

namespace Secrets

variable {Key : Type}

/-! ### The column and its users -/

def rewrap (aead : Aead Key) (service : Option (KeyRing Key)) (nonce : Option (Nonce aead)) (value : Bytes) :
    Except SecretError Bytes :=
  if value = [] then .ok []
  else
    match service with
    | none => .ok value
    | some ring =>
      if encryptedPrefix.isPrefixOf value then
        match parseCiphertext value with
        | .error failure => .error failure
        | .ok (version, _) =>
          if version = ring.current then .ok value
          else (decrypt aead service value).bind fun plaintext => encrypt aead service nonce plaintext
      else encrypt aead service nonce value

/-- A password that is not taken for a ciphertext. -/
structure Password where
  text : Bytes
  plain : Plain text

/-- A row of `connections`, with the password that was last given for it. -/
structure ConnectionRow where
  id : String
  tenantID : String
  password : Bytes
  given : Password

/-- A request: it is about to insert or update a row with a password it has sealed; it has read the
passwords of all rows and rewraps them one by one; or it is about to write one back. -/
inductive RepoCall
  | idle
  | creating (tenantID id : String) (password : Password) (sealed : Bytes)
  | updating (tenantID id : String) (password : Password) (sealed : Bytes)
  | rewrapping (items : List (String × Bytes))
  | writing (id : String) (read rewrapped : Bytes) (items : List (String × Bytes))

/-- The table, the sealer and the requests under way. -/
structure RepoState (Key : Type) where
  service : Option (KeyRing Key)
  rows : List ConnectionRow
  calls : Nat → RepoCall := fun _ => .idle

/-- What happens in a step; `succeeds` is what the database answers. -/
inductive RepoStep (aead : Aead Key)
  | addKey (version : Nat) (key : Key)
  | create (call : Nat) (tenantID id : String) (password : Password) (nonce : Option (Nonce aead))
  | update (call : Nat) (tenantID id : String) (password : Password) (nonce : Option (Nonce aead))
  | delete (tenantID id : String) (succeeds : Bool)
  | rewrapPasswords (call : Nat) (succeeds : Bool)
  | rewrapNext (call : Nat) (nonce : Option (Nonce aead))
  | statement (call : Nat) (succeeds : Bool)

namespace RepoState

variable (aead : Aead Key) (state : RepoState Key)

def setCall (call : Nat) (doing : RepoCall) : RepoState Key :=
  { state with calls := Function.update state.calls call doing }

/-- `INSERT INTO connections`; an id that is taken is refused. -/
def insertRow (tenantID id : String) (password : Password) (sealed : Bytes) : RepoState Key :=
  if state.rows.any fun row => row.id = id then state
  else { state with rows := state.rows ++ [{ id, tenantID, password := sealed, given := password }] }

def updateRow (tenantID id : String) (password : Password) (sealed : Bytes) : RepoState Key :=
  { state with
    rows := state.rows.map fun row =>
      if row.id = id ∧ row.tenantID = tenantID then { row with password := sealed, given := password } else row }

def deleteRow (tenantID id : String) : RepoState Key :=
  { state with rows := state.rows.filter fun row => ¬ (row.id = id ∧ row.tenantID = tenantID) }

/-- The `UPDATE` of `RewrapPasswords`. -/
def writeRow (id : String) (rewrapped : Bytes) : RepoState Key :=
  { state with rows := state.rows.map fun row => if row.id = id then { row with password := rewrapped } else row }

/-- One step. A request without a tenant, or whose password cannot be sealed, ends at once. -/
def step : RepoStep aead → Option (RepoState Key)
  | .addKey version key => some { state with service := addKey state.service version key }
  | .create call tenantID id password nonce =>
    match state.calls call, encrypt aead state.service nonce password.text with
    | .idle, .ok sealed =>
      if tenantID = "" then none else some (state.setCall call (.creating tenantID id password sealed))
    | _, _ => none
  | .update call tenantID id password nonce =>
    match state.calls call, encrypt aead state.service nonce password.text with
    | .idle, .ok sealed =>
      if tenantID = "" then none else some (state.setCall call (.updating tenantID id password sealed))
    | _, _ => none
  | .delete tenantID id succeeds =>
    if tenantID = "" ∨ succeeds = false then none else some (state.deleteRow tenantID id)
  | .rewrapPasswords call succeeds =>
    match state.calls call with
    | .idle =>
      if succeeds = false then none
      else some (state.setCall call (.rewrapping (state.rows.map fun row => (row.id, row.password))))
    | _ => none
  | .rewrapNext call nonce =>
    match state.calls call with
    | .rewrapping [] => some (state.setCall call .idle)
    | .rewrapping ((id, read) :: items) =>
      match rewrap aead state.service nonce read with
      | .error _ => some (state.setCall call (.rewrapping items))
      | .ok rewrapped =>
        if rewrapped = read then some (state.setCall call (.rewrapping items))
        else some (state.setCall call (.writing id read rewrapped items))
    | _ => none
  | .statement call succeeds =>
    match state.calls call with
    | .creating tenantID id password sealed =>
      some ((if succeeds then state.insertRow tenantID id password sealed else state).setCall call .idle)
    | .updating tenantID id password sealed =>
      some ((if succeeds then state.updateRow tenantID id password sealed else state).setCall call .idle)
    | .writing id _ rewrapped items =>
      some ((if succeeds then state.writeRow id rewrapped else state).setCall call (.rewrapping items))
    | _ => none

/-- Every password decrypts to the one that was last given. -/
def PasswordsKept : Prop :=
  ∀ row ∈ state.rows, decrypt aead state.service row.password = .ok row.given.text

/-- When a rewrap writes a password back, the row is gone, or the password it holds by then
decrypts to what the password that was read decrypts to. -/
def WritesCurrent : RepoStep aead → Prop
  | .statement call true =>
    match state.calls call with
    | .writing id read _ _ => ∀ row ∈ state.rows, row.id = id →
      decrypt aead state.service row.password = decrypt aead state.service read
    | _ => True
  | _ => True

end RepoState

/-! ### What is kept -/

section Kept

variable (aead : Aead Key) (service : Option (KeyRing Key))

/-- The value stands for a password. -/
def Readable (value : Bytes) : Prop :=
  ∃ password : Password, decrypt aead service value = .ok password.text

/-- What a request holds stands for a password, and what it is about to write stands for the one
it should. -/
def CallSound : RepoCall → Prop
  | .idle => True
  | .creating _ _ password sealed => decrypt aead service sealed = .ok password.text
  | .updating _ _ password sealed => decrypt aead service sealed = .ok password.text
  | .rewrapping items => ∀ item ∈ items, Readable aead service item.2
  | .writing _ read rewrapped items =>
    (decrypt aead service rewrapped = decrypt aead service read ∧ Readable aead service read) ∧
      ∀ item ∈ items, Readable aead service item.2

structure RepoSound (state : RepoState Key) : Prop where
  rows : state.PasswordsKept aead
  calls : ∀ call, CallSound aead state.service (state.calls call)

end Kept

section Steps

variable {aead : Aead Key} {state after : RepoState Key} {service later : Option (KeyRing Key)}

theorem decrypt_rewrap {nonce : Option (Nonce aead)} {value rewrapped : Bytes} {password : Password}
    (decrypted : decrypt aead service value = .ok password.text)
    (done : rewrap aead service nonce value = .ok rewrapped) :
    decrypt aead service rewrapped = .ok password.text := by
  unfold rewrap at done
  split at done
  · rename_i empty
    obtain rfl := Except.ok.inj done
    rw [← empty]
    exact decrypted
  · split at done
    · obtain rfl := Except.ok.inj done
      exact decrypted
    · rename_i ring
      split at done
      · split at done
        · cases done
        · split at done
          · obtain rfl := Except.ok.inj done
            exact decrypted
          · rw [decrypted] at done
            exact decrypt_encrypt password.plain done
      · rename_i unmarked
        have plain : Plain value := Bool.eq_false_iff.mpr unmarked
        rw [decrypt_plain plain] at decrypted
        rw [← Except.ok.inj decrypted]
        exact decrypt_encrypt plain done

theorem Readable.extends {value : Bytes} (grows : Extends service later)
    (readable : Readable aead service value) :
    Readable aead later value := by
  obtain ⟨password, decrypted⟩ := readable
  exact ⟨password, decrypt_extends grows decrypted⟩

theorem CallSound.extends {call : RepoCall} (grows : Extends service later)
    (sound : CallSound aead service call) : CallSound aead later call := by
  match call, sound with
  | .idle, _ => trivial
  | .creating _ _ _ _, decrypted => exact decrypt_extends grows decrypted
  | .updating _ _ _ _, decrypted => exact decrypt_extends grows decrypted
  | .rewrapping _, readable => exact fun item member => (readable item member).extends grows
  | .writing _ _ _ _, ⟨⟨same, password, decrypted⟩, readable⟩ =>
    refine ⟨⟨?_, password, decrypt_extends grows decrypted⟩, fun item member => (readable item member).extends grows⟩
    rw [decrypt_extends grows decrypted, decrypt_extends grows (same.trans decrypted)]

theorem RepoSound.addKey (sound : RepoSound aead state) (version : Nat) (key : Key) :
    RepoSound aead { state with service := Secrets.addKey state.service version key } where
  rows row member := decrypt_extends (extends_addKey _ version key) (sound.rows row member)
  calls call := (sound.calls call).extends (extends_addKey _ version key)

theorem RepoSound.setCall (sound : RepoSound aead state) (call : Nat) {doing : RepoCall}
    (holds : CallSound aead state.service doing) : RepoSound aead (state.setCall call doing) where
  rows := sound.rows
  calls other := by
    unfold RepoState.setCall
    dsimp only
    by_cases same : other = call
    · rw [same, Function.update_self]
      exact holds
    · rw [Function.update_of_ne same]
      exact sound.calls other

theorem RepoSound.insertRow (sound : RepoSound aead state) (tenantID id : String) {password : Password}
    {sealed : Bytes} (decrypted : decrypt aead state.service sealed = .ok password.text) :
    RepoSound aead (state.insertRow tenantID id password sealed) := by
  unfold RepoState.insertRow
  split
  · exact sound
  · refine ⟨fun row member => ?_, sound.calls⟩
    rcases List.mem_append.mp member with old | new
    · exact sound.rows row old
    · rw [List.mem_singleton.mp new]
      exact decrypted

theorem RepoSound.updateRow (sound : RepoSound aead state) (tenantID id : String) {password : Password}
    {sealed : Bytes} (decrypted : decrypt aead state.service sealed = .ok password.text) :
    RepoSound aead (state.updateRow tenantID id password sealed) := by
  refine ⟨fun row member => ?_, sound.calls⟩
  obtain ⟨before, among, rfl⟩ := List.mem_map.mp member
  split
  · exact decrypted
  · exact sound.rows before among

theorem RepoSound.deleteRow (sound : RepoSound aead state) (tenantID id : String) :
    RepoSound aead (state.deleteRow tenantID id) :=
  ⟨fun row member => sound.rows row (List.mem_of_mem_filter member), sound.calls⟩

theorem passwordsKept_writeRow (sound : RepoSound aead state) (id : String) (rewrapped : Bytes) :
    (state.writeRow id rewrapped).PasswordsKept aead ↔ ∀ row ∈ state.rows, row.id = id →
      decrypt aead state.service row.password = decrypt aead state.service rewrapped := by
  constructor
  · intro kept row member named
    have written := kept _ (List.mem_map_of_mem member)
    rw [if_pos named] at written
    exact (sound.rows row member).trans written.symm
  · intro current row member
    obtain ⟨before, among, rfl⟩ := List.mem_map.mp member
    split
    · rename_i named
      exact (current before among named).symm.trans (sound.rows before among)
    · exact sound.rows before among

theorem RepoSound.statement {call : Nat} {succeeds : Bool} (sound : RepoSound aead state)
    (fired : state.step aead (.statement call succeeds) = some after) :
    (∀ call, CallSound aead after.service (after.calls call)) ∧
      (after.PasswordsKept aead ↔ state.WritesCurrent aead (.statement call succeeds)) := by
  have before := sound.calls call
  dsimp only [RepoState.step] at fired
  cases succeeds with
  | false =>
    have quiet : ∀ doing, CallSound aead state.service doing → state.setCall call doing = after →
        (∀ call, CallSound aead after.service (after.calls call)) ∧
          (after.PasswordsKept aead ↔ state.WritesCurrent aead (.statement call false)) := by
      rintro doing holds rfl
      exact ⟨(sound.setCall call holds).calls, iff_of_true sound.rows trivial⟩
    split at fired
    · exact quiet .idle trivial (Option.some.inj fired)
    · exact quiet .idle trivial (Option.some.inj fired)
    · rename_i id read rewrapped items doing
      rw [doing] at before
      exact quiet (.rewrapping items) before.2 (Option.some.inj fired)
    · cases fired
  | true =>
    split at fired
    · rename_i tenantID id password sealed doing
      obtain rfl := Option.some.inj fired
      rw [doing] at before
      have inserted := (sound.insertRow tenantID id before).setCall call (show CallSound aead _ .idle from trivial)
      exact ⟨inserted.calls, iff_of_true inserted.rows (by simp only [RepoState.WritesCurrent, doing])⟩
    · rename_i tenantID id password sealed doing
      obtain rfl := Option.some.inj fired
      rw [doing] at before
      have updated := (sound.updateRow tenantID id before).setCall call (show CallSound aead _ .idle from trivial)
      exact ⟨updated.calls, iff_of_true updated.rows (by simp only [RepoState.WritesCurrent, doing])⟩
    · rename_i id read rewrapped items doing
      obtain rfl := Option.some.inj fired
      rw [doing] at before
      refine ⟨(sound.setCall call (show CallSound aead _ (.rewrapping items) from before.2)).calls, ?_⟩
      simp only [RepoState.WritesCurrent, doing]
      rw [← before.1.1]
      exact passwordsKept_writeRow sound id rewrapped
    · cases fired

/-- A statement keeps the passwords exactly if it writes over the row that was read. -/
theorem RepoSound.step {label : RepoStep aead} (sound : RepoSound aead state)
    (fired : state.step aead label = some after) :
    (∀ call, CallSound aead after.service (after.calls call)) ∧
      (after.PasswordsKept aead ↔ state.WritesCurrent aead label) := by
  have always : RepoSound aead after → state.WritesCurrent aead label →
      (∀ call, CallSound aead after.service (after.calls call)) ∧
        (after.PasswordsKept aead ↔ state.WritesCurrent aead label) :=
    fun sound current => ⟨sound.calls, iff_of_true sound.rows current⟩
  match label with
  | .addKey version key =>
    obtain rfl := Option.some.inj fired
    exact always (sound.addKey version key) trivial
  | .create call tenantID id password nonce =>
    dsimp only [RepoState.step] at fired
    split at fired
    · rename_i sealed _ given
      split at fired
      · cases fired
      · obtain rfl := Option.some.inj fired
        exact always (sound.setCall call (decrypt_encrypt password.plain given)) trivial
    · cases fired
  | .update call tenantID id password nonce =>
    dsimp only [RepoState.step] at fired
    split at fired
    · rename_i sealed _ given
      split at fired
      · cases fired
      · obtain rfl := Option.some.inj fired
        exact always (sound.setCall call (decrypt_encrypt password.plain given)) trivial
    · cases fired
  | .delete tenantID id succeeds =>
    dsimp only [RepoState.step] at fired
    split at fired
    · cases fired
    · obtain rfl := Option.some.inj fired
      exact always (sound.deleteRow tenantID id) trivial
  | .rewrapPasswords call succeeds =>
    dsimp only [RepoState.step] at fired
    split at fired
    · split at fired
      · cases fired
      · obtain rfl := Option.some.inj fired
        refine always (sound.setCall call fun item member => ?_) trivial
        obtain ⟨row, among, rfl⟩ := List.mem_map.mp member
        exact ⟨row.given, sound.rows row among⟩
    · cases fired
  | .rewrapNext call nonce =>
    have before := sound.calls call
    dsimp only [RepoState.step] at fired
    split at fired
    · obtain rfl := Option.some.inj fired
      exact always (sound.setCall call trivial) trivial
    · rename_i id read items doing
      rw [doing] at before
      have rest : ∀ item ∈ items, Readable aead state.service item.2 :=
        fun item member => before item (List.mem_cons_of_mem _ member)
      split at fired
      · obtain rfl := Option.some.inj fired
        exact always (sound.setCall call rest) trivial
      · rename_i rewrapped done
        split at fired
        · obtain rfl := Option.some.inj fired
          exact always (sound.setCall call rest) trivial
        · obtain rfl := Option.some.inj fired
          obtain ⟨password, decrypted⟩ := before _ List.mem_cons_self
          refine always (sound.setCall call ⟨⟨?_, password, decrypted⟩, rest⟩) trivial
          rw [decrypted, decrypt_rewrap decrypted done]
    · cases fired
  | .statement call succeeds => exact sound.statement fired

end Steps

/-! ### Runs -/

/-- In every run in which a rewrap writes a password back only where the row is gone or still stands
for what was read, every password decrypts to the one that was last given; and a step that does
otherwise loses one. -/
theorem passwords_survive_rewraps (aead : Aead Key) {initial state : RepoState Key}
    (stored : initial.PasswordsKept aead) (idle : ∀ call, initial.calls call = .idle)
    (reached : Runs.Reaches (RepoState.step aead) (RepoState.WritesCurrent aead) initial state) :
    state.PasswordsKept aead ∧
      ∀ label after, state.step aead label = some after →
        (after.PasswordsKept aead ↔ state.WritesCurrent aead label) := by
  have sound : RepoSound aead state := by
    refine reached.invariant (RepoSound aead) ⟨stored, fun call => ?_⟩ ?_
    · rw [idle call]
      trivial
    · intro before label after sound current fired
      obtain ⟨calls, kept⟩ := sound.step fired
      exact ⟨kept.mpr current, calls⟩
  exact ⟨sound.rows, fun label after fired => (sound.step fired).2⟩

section Instances

/-- One connection, with the password `a` from before there was a key. -/
def legacyRepo : RepoState UInt8 where
  service := some toyRing
  rows := [{ id := "c", tenantID := "t", password := [97], given := ⟨[97], rfl⟩ }]

theorem passwordsKept_legacyRepo : legacyRepo.PasswordsKept toyAead := by
  intro row member
  rw [List.mem_singleton.mp member]
  rfl

/-- What a rewrap makes of `a`. -/
def rewrappedLegacy : Bytes :=
  sealValue toyAead 7 1 toyNonce.bytes [97]

theorem decrypt_rewrappedLegacy : decrypt toyAead (some toyRing) rewrappedLegacy = .ok [97] :=
  decrypt_rewrap (show decrypt toyAead (some toyRing) [97] = .ok (Password.mk [97] rfl).text from rfl)
    (show rewrap toyAead (some toyRing) (some toyNonce) [97] = .ok rewrappedLegacy from rfl)

/-- A rewrap reads `a`, the password becomes `b`, and the rewrap writes `a` back. -/
theorem rewrap_loses_update :
    legacyRepo.PasswordsKept toyAead ∧
    ∃ state, Runs.Reachable (RepoState.step toyAead) legacyRepo state ∧
      (∀ call, state.calls call = .idle) ∧
      state.rows.map (fun row => (row.id, row.given.text)) = [("c", [98])] ∧
      (∀ row ∈ state.rows, decrypt toyAead state.service row.password = .ok [97]) ∧
      ¬ state.PasswordsKept toyAead := by
  refine ⟨passwordsKept_legacyRepo, _, Runs.reaches_of_exec (RepoState.step toyAead) (fun _ _ => True)
    [.rewrapPasswords 0 true, .update 1 "t" "c" ⟨[98], rfl⟩ (some toyNonce), .statement 1 true,
      .rewrapNext 0 (some toyNonce), .statement 0 true, .rewrapNext 0 none] rfl, ?_, rfl, ?_, ?_⟩
  · intro call
    rcases call with _ | _ | call
    · rfl
    · rfl
    · rfl
  · intro row member
    rw [List.mem_singleton.mp member]
    exact decrypt_rewrappedLegacy
  · intro kept
    have lost := (kept _ (List.mem_singleton_self _)).symm.trans decrypt_rewrappedLegacy
    exact absurd (Except.ok.inj lost) (by decide)

/-- The same rewrap without the update in between. -/
theorem passwords_survive_legacy :
    ∃ state, Runs.Reaches (RepoState.step toyAead) (RepoState.WritesCurrent toyAead) legacyRepo state ∧
      state.rows.map ConnectionRow.password = [rewrappedLegacy] ∧ state.PasswordsKept toyAead := by
  have reached : ∃ state, Runs.Reaches (RepoState.step toyAead) (RepoState.WritesCurrent toyAead) legacyRepo
      state ∧ state.rows.map ConnectionRow.password = [rewrappedLegacy] := by
    have selected := @Runs.Reaches.next _ _ (RepoState.step toyAead) (RepoState.WritesCurrent toyAead) legacyRepo
      _ _ (.rewrapPasswords 0 true) .start trivial rfl
    have computed := @Runs.Reaches.next _ _ (RepoState.step toyAead) (RepoState.WritesCurrent toyAead) legacyRepo
      _ _ (.rewrapNext 0 (some toyNonce)) selected trivial rfl
    refine ⟨_, @Runs.Reaches.next _ _ (RepoState.step toyAead) (RepoState.WritesCurrent toyAead) legacyRepo
      _ _ (.statement 0 true) computed ?_ rfl, rfl⟩
    intro row member _
    rw [List.mem_singleton.mp member]
  obtain ⟨state, reached, rewritten⟩ := reached
  exact ⟨state, reached, rewritten,
    (passwords_survive_rewraps toyAead passwordsKept_legacyRepo (fun _ => rfl) reached).1⟩

end Instances

end Secrets

end MqConnector
