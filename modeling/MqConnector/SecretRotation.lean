/-
This file asks whether stored secrets survive the rotation of the master keys.

The service is a step machine whose steps are its critical sections: `AddKey`, `Encrypt`
and `Decrypt` are one each, `Rotate` reads the current version in one and adds the key in
another, and `Rewrap` reads the current version, decrypts and encrypts in three. Any number
of calls interleave.
-/

import MqConnector.Secrets

namespace MqConnector

namespace Secrets

variable {Key : Type}

/-! ### Calls -/

/-- What a call of `Rewrap` does next. -/
inductive RewrapPhase
  | comparing (version : Nat)
  | decrypting
  | sealing (plaintext : Bytes)

inductive Call
  | idle
  | rotating (next : Nat)
  | rewrapping (value : Bytes) (moments : List Nat) (phase : RewrapPhase)

/-- A call of `Rewrap` that returned, with the versions that were current at its steps. -/
structure Rewrapped where
  input : Bytes
  output : Bytes
  moments : List Nat
  deriving DecidableEq

/-- The service and its callers, with what was encrypted and rewrapped so far. -/
structure RotationState (Key : Type) where
  service : Option (KeyRing Key)
  calls : Nat → Call := fun _ => .idle
  encrypted : List (Bytes × Bytes) := []
  rewrapped : List Rewrapped := []

/-- A step: the whole of a call, or a critical section of one. -/
inductive RotationStep (aead : Aead Key)
  | addKey (version : Nat) (key : Key)
  | beginRotate (call : Nat)
  | rotate (call : Nat) (key : Key)
  | encrypt (plaintext : Bytes) (nonce : Option (Nonce aead))
  | beginRewrap (call : Nat) (value : Bytes)
  | rewrap (call : Nat) (nonce : Option (Nonce aead))

namespace RotationState

def setCall (state : RotationState Key) (call : Nat) (value : Call) : RotationState Key :=
  { state with calls := Function.update state.calls call value }

/-- A call of `Rewrap` returns. -/
def finish (state : RotationState Key) (call : Nat) (input output : Bytes) (moments : List Nat) :
    RotationState Key :=
  { state.setCall call .idle with rewrapped := state.rewrapped ++ [{ input, output, moments }] }

/-- `Rewrap` up to its first critical section; that a key ring has a key needs no look. -/
def beginRewrap (state : RotationState Key) (call : Nat) (value : Bytes) : RotationState Key :=
  match state.service with
  | none => state.finish call value value []
  | some _ =>
    if value = [] then state.finish call value value []
    else if encryptedPrefix.isPrefixOf value then
      match parseCiphertext value with
      | .error _ => state
      | .ok (version, _) => state.setCall call (.rewrapping value [] (.comparing version))
    else state.setCall call (.rewrapping value [] (.sealing value))

/-- The next critical section of a call of `Rewrap`. -/
def rewrap (aead : Aead Key) (state : RotationState Key) (ring : KeyRing Key) (call : Nat)
    (nonce : Option (Nonce aead)) (value : Bytes) (moments : List Nat) : RewrapPhase → RotationState Key
  | .comparing version =>
    if version = ring.current then state.finish call value value (moments ++ [ring.current])
    else state.setCall call (.rewrapping value (moments ++ [ring.current]) .decrypting)
  | .decrypting =>
    match decrypt aead state.service value with
    | .error _ => state.setCall call .idle
    | .ok plaintext =>
      state.setCall call (.rewrapping value (moments ++ [ring.current]) (.sealing plaintext))
  | .sealing plaintext =>
    match encrypt aead state.service nonce plaintext with
    | .error _ => state.setCall call .idle
    | .ok output => state.finish call value output (moments ++ [ring.current])

/-- One step; a caller that has something else to do leaves everything alone. -/
def step (aead : Aead Key) (state : RotationState Key) : RotationStep aead → RotationState Key
  | .addKey version key => { state with service := Secrets.addKey state.service version key }
  | .beginRotate call =>
    match state.calls call, state.service with
    | .idle, some ring => state.setCall call (.rotating (ring.current + 1))
    | _, _ => state
  | .rotate call key =>
    match state.calls call with
    | .rotating next =>
      { state.setCall call .idle with service := Secrets.addKey state.service next key }
    | _ => state
  | .encrypt plaintext nonce =>
    match Secrets.encrypt aead state.service nonce plaintext with
    | .error _ => state
    | .ok value => { state with encrypted := state.encrypted ++ [(plaintext, value)] }
  | .beginRewrap call value =>
    match state.calls call with
    | .idle => state.beginRewrap call value
    | _ => state
  | .rewrap call nonce =>
    match state.calls call, state.service with
    | .rewrapping value moments phase, some ring => state.rewrap aead ring call nonce value moments phase
    | _, _ => state

def run (aead : Aead Key) (state : RotationState Key) (steps : List (RotationStep aead)) :
    RotationState Key :=
  steps.foldl (step aead) state

end RotationState

/-! ### What is kept -/

/-- The value is a ciphertext of this version. -/
def Carries (value : Bytes) (version : Nat) : Prop :=
  encryptedPrefix.isPrefixOf value = true ∧ ∃ payload, parseCiphertext value = .ok (version, payload)

section Kept

variable (aead : Aead Key) (service : Option (KeyRing Key))

/-- What a call under way relies on. -/
def CallKept : Call → Prop
  | .idle => True
  | .rotating _ => True
  | .rewrapping value _ (.comparing version) => service ≠ none ∧ Carries value version
  | .rewrapping value moments .decrypting => service ≠ none ∧ value ≠ [] ∧
    ∃ version ∈ moments, ¬ Carries value version
  | .rewrapping value moments (.sealing plaintext) => service ≠ none ∧ value ≠ [] ∧
    decrypt aead service value = .ok plaintext ∧
    (Plain value ∨ ∃ version ∈ moments, ¬ Carries value version)

/-- A call that returned left its value alone, which was of a version that was current at the time;
or it was not of one of them, and was encrypted again. -/
def RewrappedKept (call : Rewrapped) : Prop :=
  (call.output = call.input ∧
    (service = none ∨ call.input = [] ∨ ∃ version ∈ call.moments, Carries call.input version)) ∨
  (service ≠ none ∧ call.input ≠ [] ∧ (∃ version ∈ call.moments, ¬ Carries call.input version) ∧
    ∃ plaintext, decrypt aead service call.input = .ok plaintext ∧ (Plain plaintext →
      decrypt aead service call.output = .ok plaintext ∧
      (plaintext ≠ [] → ∃ version ∈ call.moments, Carries call.output version)))

/-- What every state keeps. -/
structure RotationKept (state : RotationState Key) : Prop where
  encrypted : ∀ pair ∈ state.encrypted, Plain pair.1 → decrypt aead state.service pair.2 = .ok pair.1
  calls : ∀ call, CallKept aead state.service (state.calls call)
  rewrapped : ∀ call ∈ state.rewrapped, RewrappedKept aead state.service call

end Kept

section Steps

variable {aead : Aead Key} {state : RotationState Key} {service later : Option (KeyRing Key)}

theorem Extends.ne_none (grows : Extends service later) (known : service ≠ none) : later ≠ none := by
  obtain ⟨ring, rfl⟩ := Option.ne_none_iff_exists'.mp known
  obtain ⟨grown, member, -⟩ := grows.2 ring rfl
  exact fun none => by rw [none] at member; cases member

theorem CallKept.extends {call : Call} (grows : Extends service later) (kept : CallKept aead service call) :
    CallKept aead later call := by
  match call, kept with
  | .idle, _ => trivial
  | .rotating _, _ => trivial
  | .rewrapping _ _ (.comparing _), ⟨known, carries⟩ => exact ⟨grows.ne_none known, carries⟩
  | .rewrapping _ _ .decrypting, ⟨known, other⟩ => exact ⟨grows.ne_none known, other⟩
  | .rewrapping _ _ (.sealing _), ⟨known, nonempty, decrypted, other⟩ =>
    exact ⟨grows.ne_none known, nonempty, decrypt_extends grows decrypted, other⟩

theorem RewrappedKept.extends {call : Rewrapped} (grows : Extends service later)
    (kept : RewrappedKept aead service call) : RewrappedKept aead later call := by
  rcases kept with ⟨same, none | given⟩ | ⟨known, nonempty, other, plaintext, decrypted, further⟩
  · exact Or.inl ⟨same, Or.inl (grows.1 none)⟩
  · exact Or.inl ⟨same, Or.inr given⟩
  · refine Or.inr ⟨grows.ne_none known, nonempty, other, plaintext, decrypt_extends grows decrypted, ?_⟩
    intro plain
    obtain ⟨again, carries⟩ := further plain
    exact ⟨decrypt_extends grows again, carries⟩

theorem RotationKept.addKey (kept : RotationKept aead state) (version : Nat) (key : Key) :
    RotationKept aead { state with service := Secrets.addKey state.service version key } where
  encrypted pair member plain :=
    decrypt_extends (extends_addKey _ version key) (kept.encrypted pair member plain)
  calls call := (kept.calls call).extends (extends_addKey _ version key)
  rewrapped call member := (kept.rewrapped call member).extends (extends_addKey _ version key)

theorem RotationKept.setCall (kept : RotationKept aead state) (call : Nat) {value : Call}
    (holds : CallKept aead state.service value) : RotationKept aead (state.setCall call value) where
  encrypted := kept.encrypted
  calls other := by
    show CallKept aead state.service (Function.update state.calls call value other)
    by_cases same : other = call
    · subst same
      rw [Function.update_self]
      exact holds
    · rw [Function.update_of_ne same]
      exact kept.calls other
  rewrapped := kept.rewrapped

theorem RotationKept.finish (kept : RotationKept aead state) (call : Nat) {input output : Bytes}
    {moments : List Nat} (holds : RewrappedKept aead state.service { input, output, moments }) :
    RotationKept aead (state.finish call input output moments) where
  encrypted := kept.encrypted
  calls := (kept.setCall call (show CallKept aead state.service .idle from trivial)).calls
  rewrapped := by
    refine List.forall_mem_append.mpr ⟨kept.rewrapped, fun found member => ?_⟩
    obtain rfl := List.mem_singleton.mp member
    exact holds

theorem RotationKept.beginRewrap (kept : RotationKept aead state) (call : Nat) (value : Bytes) :
    RotationKept aead (state.beginRewrap call value) := by
  unfold RotationState.beginRewrap
  split
  · rename_i none
    exact kept.finish call (Or.inl ⟨rfl, Or.inl none⟩)
  · rename_i ring given
    have known : state.service ≠ none := by simp [given]
    split
    · rename_i empty
      exact kept.finish call (Or.inl ⟨rfl, Or.inr (Or.inl empty)⟩)
    · rename_i nonempty
      split
      · rename_i marked
        split
        · exact kept
        · rename_i version payload parsed
          exact kept.setCall call ⟨known, marked, payload, parsed⟩
      · rename_i unmarked
        have plain : Plain value := Bool.eq_false_iff.mpr unmarked
        exact kept.setCall call ⟨known, nonempty, decrypt_plain plain, Or.inl plain⟩

theorem carries_encrypt {ring : KeyRing Key} {nonce : Option (Nonce aead)}
    {plaintext value : Bytes} (plain : Plain plaintext) (nonempty : plaintext ≠ [])
    (sealed : encrypt aead (some ring) nonce plaintext = .ok value) : Carries value ring.current := by
  unfold encrypt at sealed
  dsimp only at sealed
  rw [if_neg nonempty, show encryptedPrefix.isPrefixOf plaintext = false from plain,
    if_neg Bool.false_ne_true] at sealed
  cases nonce with
  | none => cases sealed
  | some nonce =>
    obtain rfl := Except.ok.inj sealed
    obtain ⟨positive, fits⟩ := ring.versioned ring.current ring.key ring.held
    exact ⟨sealValue_marked, _, parseCiphertext_sealValue positive fits⟩

theorem Carries.unique {value : Bytes} {version other : Nat} (first : Carries value version)
    (second : Carries value other) : version = other := by
  obtain ⟨-, payload, parsed⟩ := first
  obtain ⟨-, _, again⟩ := second
  rw [parsed] at again
  exact (Prod.mk.inj (Except.ok.inj again)).1

theorem Carries.ne_nil {value : Bytes} {version : Nat} (carries : Carries value version) : value ≠ [] := by
  rintro rfl
  exact absurd carries.1 (by decide)

theorem not_carries_plain {value : Bytes} (plain : Plain value) (version : Nat) : ¬ Carries value version :=
  fun carries => absurd carries.1 (by rw [show encryptedPrefix.isPrefixOf value = false from plain]; decide)

theorem RotationKept.rewrap (kept : RotationKept aead state) {ring : KeyRing Key}
    (given : state.service = some ring) (call : Nat) (nonce : Option (Nonce aead)) {value : Bytes}
    {moments : List Nat} {phase : RewrapPhase}
    (under : CallKept aead state.service (.rewrapping value moments phase)) :
    RotationKept aead (state.rewrap aead ring call nonce value moments phase) := by
  have now : ring.current ∈ moments ++ [ring.current] := List.mem_append_right _ (List.mem_singleton_self _)
  match phase, under with
  | .comparing version, ⟨known, carries⟩ =>
    rw [RotationState.rewrap]
    split
    · rename_i same
      exact kept.finish call (Or.inl ⟨rfl, Or.inr (Or.inr ⟨ring.current, now, same ▸ carries⟩)⟩)
    · rename_i other
      exact kept.setCall call
        ⟨known, carries.ne_nil, ring.current, now, fun again => other (carries.unique again)⟩
  | .decrypting, ⟨known, nonempty, version, member, other⟩ =>
    rw [RotationState.rewrap]
    split
    · exact kept.setCall call trivial
    · rename_i plaintext decrypted
      exact kept.setCall call ⟨known, nonempty, decrypted,
        Or.inr ⟨version, List.mem_append_left _ member, other⟩⟩
  | .sealing plaintext, ⟨known, nonempty, decrypted, other⟩ =>
    rw [RotationState.rewrap]
    split
    · exact kept.setCall call trivial
    · rename_i output sealed
      have apart : ∃ version ∈ moments ++ [ring.current], ¬ Carries value version := by
        rcases other with plain | ⟨version, member, other⟩
        · exact ⟨ring.current, now, not_carries_plain plain _⟩
        · exact ⟨version, List.mem_append_left _ member, other⟩
      refine kept.finish call (Or.inr ⟨known, nonempty, apart, plaintext, decrypted, fun plain =>
        ⟨decrypt_encrypt plain sealed, fun nonempty => ⟨ring.current, now, ?_⟩⟩⟩)
      rw [given] at sealed
      exact carries_encrypt plain nonempty sealed

theorem RotationKept.step (kept : RotationKept aead state) (step : RotationStep aead) :
    RotationKept aead (state.step aead step) := by
  cases step with
  | addKey version key => exact kept.addKey version key
  | beginRotate call =>
    rw [RotationState.step]
    split
    · exact kept.setCall call trivial
    · exact kept
  | rotate call key =>
    rw [RotationState.step]
    split
    · exact (kept.setCall call (show CallKept aead state.service .idle from trivial)).addKey _ key
    · exact kept
  | encrypt plaintext nonce =>
    rw [RotationState.step]
    split
    · exact kept
    · rename_i value sealed
      exact
        { kept with
          encrypted := by
            refine List.forall_mem_append.mpr ⟨kept.encrypted, fun pair member plain => ?_⟩
            obtain rfl := List.mem_singleton.mp member
            exact decrypt_encrypt plain sealed }
  | beginRewrap call value =>
    rw [RotationState.step]
    split
    · exact kept.beginRewrap call value
    · exact kept
  | rewrap call nonce =>
    rw [RotationState.step]
    split
    · rename_i value moments phase ring under given
      have holds := kept.calls call
      rw [under] at holds
      exact kept.rewrap given call nonce holds
    · exact kept

/-- Every run of rotations keeps the secrets. -/
theorem rotationKept_run (kept : RotationKept aead state) (steps : List (RotationStep aead)) :
    RotationKept aead (state.run aead steps) := by
  induction steps generalizing state with
  | nil => exact kept
  | cons step steps hypothesis => exact hypothesis (kept.step step)

end Steps

/-- A service with these keys, before any call. -/
def RotationState.initial (service : Option (KeyRing Key)) : RotationState Key where
  service := service

theorem rotationKept_initial (aead : Aead Key) (service : Option (KeyRing Key)) :
    RotationKept aead (.initial service) where
  encrypted _ member := absurd member List.not_mem_nil
  calls _ := trivial
  rewrapped _ member := absurd member List.not_mem_nil

/-- A rewrapped value is opened to the same text. -/
theorem RewrappedKept.decrypted {aead : Aead Key} {service : Option (KeyRing Key)} {call : Rewrapped}
    (kept : RewrappedKept aead service call) {plaintext : Bytes}
    (decrypted : decrypt aead service call.input = .ok plaintext) (plain : Plain plaintext) :
    decrypt aead service call.output = .ok plaintext ∧
      (plaintext ≠ [] → service ≠ none → ∃ version ∈ call.moments, Carries call.output version) := by
  rcases kept with ⟨same, given⟩ | ⟨known, nonempty, other, found, first, further⟩
  · refine ⟨same ▸ decrypted, fun nonempty known => ?_⟩
    rcases given with none | empty | carries
    · exact absurd none known
    · rw [empty] at decrypted
      exact absurd (Except.ok.inj decrypted).symm nonempty
    · exact same ▸ carries
  · obtain rfl := Except.ok.inj (decrypted.symm.trans first)
    exact ⟨(further plain).1, fun nonempty _ => (further plain).2 nonempty⟩

/-- Stored secrets survive rotation: what was encrypted is decrypted ever after, and so is what
`Rewrap` made of it, which carries a version that was current during the call; a second `Rewrap`
changes nothing when the version was the same all the time. -/
theorem secrets_survive_rotation (aead : Aead Key) (service : Option (KeyRing Key))
    (steps : List (RotationStep aead)) :
    let state := (RotationState.initial service).run aead steps
    (∀ plaintext value, (plaintext, value) ∈ state.encrypted → Plain plaintext →
      decrypt aead state.service value = .ok plaintext) ∧
    (∀ call ∈ state.rewrapped, ∀ plaintext, decrypt aead state.service call.input = .ok plaintext →
      Plain plaintext → decrypt aead state.service call.output = .ok plaintext ∧
        (plaintext ≠ [] → state.service ≠ none →
          ∃ version ∈ call.moments, Carries call.output version)) ∧
    (∀ call ∈ state.rewrapped, ∀ again ∈ state.rewrapped, again.input = call.output →
      (∃ version, ∀ moment ∈ call.moments ++ again.moments, moment = version) →
      (call.input = [] ∨ ∃ plaintext, decrypt aead state.service call.input = .ok plaintext ∧
        Plain plaintext ∧ plaintext ≠ []) → again.output = call.output) := by
  intro state
  have kept : RotationKept aead state := rotationKept_run (rotationKept_initial aead service) steps
  refine ⟨fun plaintext value member => kept.encrypted (plaintext, value) member, ?_, ?_⟩
  · intro call member plaintext decrypted plain
    exact (kept.rewrapped call member).decrypted decrypted plain
  · intro call member again memberAgain same ⟨version, always⟩ stored
    rcases kept.rewrapped again memberAgain with ⟨unchanged, -⟩ | ⟨known, nonempty, ⟨moment, during, other⟩, -⟩
    · exact unchanged.trans same
    · have carries : ∃ version ∈ call.moments, Carries call.output version := by
        rcases stored with empty | ⟨plaintext, decrypted, plain, full⟩
        · rcases kept.rewrapped call member with ⟨unchanged, -⟩ | ⟨-, full, -⟩
          · exact absurd (same.trans (unchanged.trans empty)) nonempty
          · exact absurd empty full
        · exact ((kept.rewrapped call member).decrypted decrypted plain).2 full known
      obtain ⟨carried, member, carries⟩ := carries
      have first := always carried (List.mem_append_left _ member)
      have second := always moment (List.mem_append_right _ during)
      rw [same, second, ← first] at other
      exact absurd carries other

section Instances

/-- A cipher that writes the key before the text. -/
def toyAead : Aead UInt8 where
  nonceSize := 12
  sealBytes key _ text := key :: text
  openBytes key _ text :=
    match text with
    | [] => none
    | first :: rest => if first = key then some rest else none
  opens _ _ _ := if_pos rfl
  rejects _ _ _ _ other := if_neg other.symm

def toyNonce : Nonce toyAead where
  bytes := List.replicate 12 0
  sized := rfl

def toyRing : KeyRing UInt8 where
  keys version := if version = 1 then some 7 else none
  current := 1
  key := 7
  held := rfl
  versioned version _ found := by
    split at found
    · rename_i same
      rw [same]
      decide
    · cases found

/-- `enc:x` is not encrypted and cannot be decrypted; the empty secret, and every secret of a service
without keys, is left as it is by `Rewrap` and carries no version. -/
theorem encrypt_leaves_marked :
    encrypt toyAead (some toyRing) (some toyNonce) (encryptedPrefix ++ [120]) = .ok (encryptedPrefix ++ [120]) ∧
      decrypt toyAead (some toyRing) (encryptedPrefix ++ [120]) = .error .malformedHeader ∧
      encrypt toyAead (some toyRing) (some toyNonce) [] = .ok [] ∧
      ((RotationState.initial (some toyRing)).run toyAead [.beginRewrap 0 []]).rewrapped = [⟨[], [], []⟩] ∧
      encrypt toyAead none (some toyNonce) [97] = .ok [97] ∧
      ((RotationState.initial none).run toyAead [.beginRewrap 0 [97]]).rewrapped = [⟨[97], [97], []⟩] ∧
      ∀ version, ¬ Carries [] version ∧ ¬ Carries [97] version :=
  ⟨by decide, by decide, by decide, rfl, rfl, rfl,
    fun _ => ⟨not_carries_plain (show Plain [] from rfl) _, not_carries_plain (show Plain [97] from rfl) _⟩⟩

/-- The secret `a`, sealed under the first key. -/
def oldSecret : Bytes := sealValue toyAead 7 1 toyNonce.bytes [97]

/-- The secret `a`, sealed under a second key. -/
def newSecret : Bytes := sealValue toyAead 9 2 toyNonce.bytes [97]

/-- The secret is sealed under the first key, rewrapped under the second, and rewrapped again. -/
def rotated : List (RotationStep toyAead) :=
  [.encrypt [97] (some toyNonce), .addKey 2 9, .beginRewrap 0 oldSecret, .rewrap 0 none, .rewrap 0 none,
    .rewrap 0 (some toyNonce), .beginRewrap 1 newSecret, .rewrap 1 none]

theorem moments_rotated : ∀ call ∈ ((RotationState.initial (some toyRing)).run toyAead rotated).rewrapped,
    ∀ moment ∈ call.moments, moment = 2 := by
  decide

/-- The old secret is decrypted after the rotation, and so is what `Rewrap` made of it, which carries the new version
and which a second `Rewrap` leaves as it is. -/
theorem secrets_survive_rotation_rotated :
    let state := (RotationState.initial (some toyRing)).run toyAead rotated
    state.rewrapped = [⟨oldSecret, newSecret, [2, 2, 2]⟩, ⟨newSecret, newSecret, [2]⟩] ∧
      decrypt toyAead state.service oldSecret = .ok [97] ∧
      ∀ call ∈ state.rewrapped, call.input = oldSecret →
        decrypt toyAead state.service call.output = .ok [97] ∧
          (∃ version ∈ call.moments, Carries call.output version) ∧
          ∀ again ∈ state.rewrapped, again.input = call.output → again.output = call.output := by
  obtain ⟨encrypted, rewrapped, twice⟩ := secrets_survive_rotation toyAead (some toyRing) rotated
  have plain : Plain [97] := rfl
  have old := encrypted [97] oldSecret (List.mem_singleton_self _) plain
  refine ⟨by decide, old, fun call member input => ?_⟩
  have opened := input.symm ▸ old
  obtain ⟨kept, carries⟩ := rewrapped call member [97] opened plain
  refine ⟨kept, carries (List.cons_ne_nil _ _) (by decide), fun again memberAgain same => ?_⟩
  refine twice call member again memberAgain same ⟨2, fun moment during => ?_⟩
    (Or.inr ⟨[97], opened, plain, List.cons_ne_nil _ _⟩)
  rcases List.mem_append.mp during with first | second
  · exact moments_rotated call member moment first
  · exact moments_rotated again memberAgain moment second

end Instances

end Secrets

end MqConnector
