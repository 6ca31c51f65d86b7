/-
This file models `internal/secrets` byte by byte: the form of a stored ciphertext, its
parser, and `Encrypt` and `Decrypt` over the key ring.

AES-GCM is a parameter. It opens what it sealed under the same key, and rejects it under
any other; nothing else is known of it.
-/

import Mathlib.Data.Nat.Digits.Lemmas
import MqConnector.Base64
import MqConnector.Dlq

namespace MqConnector

namespace Secrets

variable {Key : Type}

/-- AES-GCM: what it seals under a key it opens under that key only. -/
structure Aead (Key : Type) where
  nonceSize : Nat
  sealBytes : Key → Bytes → Bytes → Bytes
  openBytes : Key → Bytes → Bytes → Option Bytes
  opens : ∀ key nonce text, openBytes key nonce (sealBytes key nonce text) = some text
  rejects : ∀ key other nonce text, other ≠ key →
    openBytes other nonce (sealBytes key nonce text) = none

/-- What `io.ReadFull` fills a nonce with. -/
structure Nonce (aead : Aead Key) where
  bytes : Bytes
  sized : bytes.length = aead.nonceSize

/-- What opening a value fails with. -/
inductive SecretError
  | randomNonce
  | noMasterKey
  | malformedHeader
  | invalidVersion
  | decodeCiphertext
  | noKey (version : Nat)
  | tooShort
  | rejected
  deriving DecidableEq

/-! ### The form of a ciphertext -/

/-- A number in decimal digits. -/
def decimal (number : Nat) : Bytes :=
  if number = 0 then [48] else (Nat.digits 10 number).reverse.map fun digit => UInt8.ofNat (digit + 48)

def ofDecimal (text : Bytes) : Option Nat :=
  if text = [] then none
  else text.foldl (fun number char => number.bind fun number =>
    if 48 ≤ char.toNat ∧ char.toNat ≤ 57 then some (10 * number + (char.toNat - 48)) else none) (some 0)

/-- `strconv.Atoi`. -/
def atoi (text : Bytes) : Option Int :=
  let value : Option Int := match text with
    | 45 :: digits => (ofDecimal digits).map fun number => -Int.ofNat number
    | 43 :: digits => (ofDecimal digits).map Int.ofNat
    | digits => (ofDecimal digits).map Int.ofNat
  value.bind fun number => if -2 ^ 63 ≤ number ∧ number < 2 ^ 63 then some number else none

/-- A sealed value: the prefix, the version and the sealed text. -/
def sealValue (aead : Aead Key) (key : Key) (version : Nat) (nonce plaintext : Bytes) : Bytes :=
  encryptedPrefix ++ 118 :: (decimal version ++
    58 :: Base64.encode (nonce ++ aead.sealBytes key nonce plaintext))

/-- The version of a sealed value and its sealed text. -/
def parseCiphertext (value : Bytes) : Except SecretError (Nat × Bytes) :=
  let body := value.drop encryptedPrefix.length
  let header := body.takeWhile (· != 58)
  if header.length = body.length ∨ header.length ≤ 1 ∨ header.head? ≠ some 118 then .error .malformedHeader
  else match atoi header.tail with
    | none => .error .invalidVersion
    | some version =>
      if version < 1 then .error .invalidVersion
      else match Base64.decode (body.drop (header.length + 1)) with
        | none => .error .decodeCiphertext
        | some payload => .ok (version.toNat, payload)

/-! ### Encrypt and Decrypt -/

variable (aead : Aead Key)

/-- `Service.Encrypt`; there is no nonce when the random source fails. -/
def encrypt (service : Option (KeyRing Key)) (nonce : Option (Nonce aead)) (plaintext : Bytes) :
    Except SecretError Bytes :=
  match service with
  | none => .ok plaintext
  | some ring =>
    if plaintext = [] then .ok []
    else if encryptedPrefix.isPrefixOf plaintext then .ok plaintext
    else match nonce with
      | none => .error .randomNonce
      | some nonce => .ok (sealValue aead ring.key ring.current nonce.bytes plaintext)

/-- `Decrypt` of a value that is marked as a ciphertext. -/
def openValue (keys : Nat → Option Key) (value : Bytes) : Except SecretError Bytes :=
  match parseCiphertext value with
  | .error failure => .error failure
  | .ok (version, payload) =>
    match keys version with
    | none => .error (.noKey version)
    | some key =>
      if payload.length < aead.nonceSize then .error .tooShort
      else
        match aead.openBytes key (payload.take aead.nonceSize) (payload.drop aead.nonceSize) with
        | none => .error .rejected
        | some plaintext => .ok plaintext

/-- `Decrypt`. -/
def decrypt (service : Option (KeyRing Key)) (value : Bytes) : Except SecretError Bytes :=
  if encryptedPrefix.isPrefixOf value then
    match service with
    | none => .error .noMasterKey
    | some ring => openValue aead ring.keys value
  else .ok value

/-! ### What was sealed is opened -/

section Sealed

variable {aead} {key : Key} {version : Nat} {nonce plaintext value : Bytes}

theorem decimal_char {digit : Nat} (small : digit < 10) : (UInt8.ofNat (digit + 48)).toNat = digit + 48 := by
  rw [UInt8.toNat_ofNat']
  omega

theorem decimal_of_pos (positive : 1 ≤ version) :
    decimal version = (Nat.digits 10 version).reverse.map fun digit => UInt8.ofNat (digit + 48) :=
  if_neg (by omega)

theorem decimal_ne_nil (positive : 1 ≤ version) : decimal version ≠ [] := by
  rw [decimal_of_pos positive]
  simp only [ne_eq, List.map_eq_nil_iff, List.reverse_eq_nil_iff]
  exact Nat.digits_ne_nil_iff_ne_zero.mpr (by omega)

theorem decimal_digits (positive : 1 ≤ version) {char : UInt8} (member : char ∈ decimal version) :
    48 ≤ char.toNat ∧ char.toNat ≤ 57 := by
  rw [decimal_of_pos positive] at member
  obtain ⟨digit, known, rfl⟩ := List.mem_map.mp member
  have small := Nat.digits_lt_base (by decide) (List.mem_reverse.mp known)
  rw [decimal_char small]
  omega

theorem ofDecimal_decimal (positive : 1 ≤ version) : ofDecimal (decimal version) = some version := by
  have folded : ∀ digits : List Nat, (∀ digit ∈ digits, digit < 10) →
      (digits.reverse.map fun digit => UInt8.ofNat (digit + 48)).foldl (fun number char =>
        number.bind fun number => if 48 ≤ char.toNat ∧ char.toNat ≤ 57 then
          some (10 * number + (char.toNat - 48)) else none) (some 0) = some (Nat.ofDigits 10 digits) := by
    intro digits small
    induction digits with
    | nil => rfl
    | cons digit digits hypothesis =>
      obtain ⟨here, others⟩ := List.forall_mem_cons.mp small
      rw [List.reverse_cons, List.map_append, List.foldl_append, hypothesis others,
        List.map_singleton, List.foldl_cons, List.foldl_nil, Option.bind_some, decimal_char here,
        if_pos (by omega), Nat.ofDigits_cons]
      congr 1
      omega
  rw [ofDecimal, if_neg (decimal_ne_nil positive), decimal_of_pos positive,
    folded _ fun digit member => Nat.digits_lt_base (by decide) member, Nat.ofDigits_digits]

theorem atoi_decimal (positive : 1 ≤ version) (fits : version < 2 ^ 63) :
    atoi (decimal version) = some (version : Int) := by
  have unsigned : atoi (decimal version) = ((ofDecimal (decimal version)).map Int.ofNat).bind
      fun number => if -2 ^ 63 ≤ number ∧ number < 2 ^ 63 then some number else none := by
    unfold atoi
    dsimp only
    split
    · rename_i same
      have digit := decimal_digits positive (show (45 : UInt8) ∈ decimal version by rw [same]; simp)
      exact absurd digit (by decide)
    · rename_i same
      have digit := decimal_digits positive (show (43 : UInt8) ∈ decimal version by rw [same]; simp)
      exact absurd digit (by decide)
    · rfl
  have fits : (version : Int) < 2 ^ 63 := by exact_mod_cast fits
  rw [unsigned, ofDecimal_decimal positive, Option.map_some, Option.bind_some, Int.ofNat_eq_natCast,
    if_pos ⟨by omega, fits⟩]

theorem sealValue_marked : encryptedPrefix.isPrefixOf (sealValue aead key version nonce plaintext) = true :=
  List.isPrefixOf_iff_prefix.mpr (List.prefix_append _ _)

theorem parseCiphertext_sealValue (positive : 1 ≤ version) (fits : version < 2 ^ 63) :
    parseCiphertext (sealValue aead key version nonce plaintext) =
      .ok (version, nonce ++ aead.sealBytes key nonce plaintext) := by
  have body : (sealValue aead key version nonce plaintext).drop encryptedPrefix.length =
      (118 :: decimal version) ++ 58 :: Base64.encode (nonce ++ aead.sealBytes key nonce plaintext) := by
    rw [sealValue, List.drop_left]
    rfl
  have plain : ∀ char ∈ (118 : UInt8) :: decimal version, (char != 58) = true := by
    intro char member
    rcases List.mem_cons.mp member with rfl | member
    · rfl
    · obtain ⟨low, high⟩ := decimal_digits positive member
      refine bne_iff_ne.mpr fun same => ?_
      rw [same] at high
      exact absurd high (by decide)
  have header : ((118 :: decimal version) ++ 58 :: Base64.encode (nonce ++ aead.sealBytes key nonce
      plaintext)).takeWhile (· != 58) = 118 :: decimal version := by
    rw [List.takeWhile_append_of_pos plain, List.takeWhile_cons_of_neg (by decide), List.append_nil]
  have length := List.length_pos_iff.mpr (decimal_ne_nil positive)
  unfold parseCiphertext
  dsimp only
  rw [body, header, if_neg, List.tail_cons, atoi_decimal positive fits]
  · dsimp only
    rw [if_neg (by omega), ← List.drop_drop, List.drop_left, List.drop_one, List.tail_cons,
      Base64.decode_encode]
    simp
  · simp only [List.length_append, List.length_cons, List.head?_cons, not_or]
    exact ⟨by omega, by omega, by simp⟩

theorem openValue_sealValue {keys : Nat → Option Key} (known : keys version = some key)
    (valid : KeyVersion version) (sized : nonce.length = aead.nonceSize) :
    openValue aead keys (sealValue aead key version nonce plaintext) = .ok plaintext := by
  have long : ¬ (nonce ++ aead.sealBytes key nonce plaintext).length < aead.nonceSize := by
    rw [List.length_append]
    omega
  unfold openValue
  rw [parseCiphertext_sealValue valid.1 valid.2]
  dsimp only
  rw [known]
  dsimp only
  rw [if_neg long, ← sized, List.take_left, List.drop_left, aead.opens]

end Sealed

/-! ### Keys that are added -/

section Rotation

variable {aead} {service later : Option (KeyRing Key)} {plaintext value : Bytes}

/-- A plaintext that is not taken for a ciphertext. -/
def Plain (text : Bytes) : Prop :=
  encryptedPrefix.isPrefixOf text = false

/-- No key was lost or changed. -/
def Extends (service later : Option (KeyRing Key)) : Prop :=
  (service = none → later = none) ∧
    ∀ ring ∈ service, ∃ grown ∈ later, ∀ version key, ring.keys version = some key →
      grown.keys version = some key

/-- `Service.AddKey` with a key that could be built. -/
def addKey (service : Option (KeyRing Key)) (version : Nat) (key : Key) : Option (KeyRing Key) :=
  service.map fun ring => ring.addKey version key

theorem Extends.refl (service : Option (KeyRing Key)) : Extends service service :=
  ⟨id, fun ring member => ⟨ring, member, fun _ _ => id⟩⟩

theorem extends_addKey (service : Option (KeyRing Key)) (version : Nat) (key : Key) :
    Extends service (addKey service version key) := by
  cases service with
  | none => exact .refl none
  | some ring =>
    refine ⟨(fun absent => by cases absent), fun held member => ⟨_, rfl, fun other known found => ?_⟩⟩
    obtain rfl := Option.some.inj member
    exact KeyRing.addKey_keys _ version key found

theorem decrypt_extends (grows : Extends service later) (known : decrypt aead service value = .ok plaintext) :
    decrypt aead later value = .ok plaintext := by
  unfold decrypt at known ⊢
  split at known
  · rename_i marked
    rw [if_pos marked]
    cases service with
    | none => cases known
    | some ring =>
      obtain ⟨grown, member, kept⟩ := grows.2 ring rfl
      obtain rfl := Option.mem_def.mp member
      dsimp only [openValue] at known ⊢
      split at known
      · cases known
      · rename_i version payload parsed
        split at known
        · cases known
        · rename_i key found
          rw [kept version key found]
          exact known
  · rename_i unmarked
    rw [if_neg unmarked]
    exact known

theorem decrypt_plain (plain : Plain value) : decrypt aead service value = .ok value := by
  unfold decrypt
  rw [if_neg (by rw [show encryptedPrefix.isPrefixOf value = false from plain]; decide)]

theorem decrypt_encrypt {nonce : Option (Nonce aead)} (plain : Plain plaintext)
    (sealed : encrypt aead service nonce plaintext = .ok value) :
    decrypt aead service value = .ok plaintext := by
  unfold encrypt at sealed
  cases service with
  | none =>
    obtain rfl := Except.ok.inj sealed
    exact decrypt_plain plain
  | some ring =>
    dsimp only at sealed
    split at sealed
    · rename_i empty
      obtain rfl := Except.ok.inj sealed
      rw [empty]
      rfl
    · rw [show encryptedPrefix.isPrefixOf plaintext = false from plain, if_neg Bool.false_ne_true] at sealed
      cases nonce with
      | none => cases sealed
      | some nonce =>
        obtain rfl := Except.ok.inj sealed
        unfold decrypt
        rw [if_pos sealValue_marked]
        exact openValue_sealValue ring.held (ring.versioned _ _ ring.held) nonce.sized

end Rotation

/-! ### The sealer of the dead-letter queue -/

/-- `seal` and `Decrypt` as the other packages use them. -/
def cipher (aead : Aead Key) : Cipher Key where
  nonceSize := aead.nonceSize
  sealText := sealValue aead
  openText keys value := (openValue aead keys value).toOption
  sealText_prefix key version nonce text := List.isPrefixOf_iff_prefix.mp sealValue_marked
  openText_sealText keys key version nonce text known valid sized := by
    rw [openValue_sealValue known valid sized]
    rfl

end Secrets

end MqConnector
