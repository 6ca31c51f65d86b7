/-
This file is a small library on what happens to bytes that are sent as a text: a sequence of
bytes that is the encoding of a character stays, and every other byte becomes the replacement
character. A text is sent as it is exactly if it is the encoding of some characters.

The encoding and the decoding of one character are those of the core library.
-/

import Mathlib.Data.List.Basic

namespace Utf8

def replacement : List UInt8 := [0xEF, 0xBF, 0xBD]

def encode (chars : List Char) : List UInt8 :=
  chars.flatMap String.utf8EncodeChar

/-- The bytes are the encoding of characters. -/
def Valid (bytes : List UInt8) : Prop :=
  ∃ chars, bytes = encode chars

/-- The character the bytes begin with. -/
def decodeRune (bytes : List UInt8) : Option Char :=
  bytes.toByteArray.utf8DecodeChar? 0

/-- Character by character, and byte by byte where there is none. -/
def sanitize : Nat → List UInt8 → List UInt8
  | 0, _ => []
  | _ + 1, [] => []
  | fuel + 1, byte :: rest =>
    match decodeRune (byte :: rest) with
    | some char => String.utf8EncodeChar char ++ sanitize fuel ((byte :: rest).drop char.utf8Size)
    | none => replacement ++ sanitize fuel rest

/-- What arrives of bytes that are sent as a text. Every round takes a byte at least. -/
def asText (bytes : List UInt8) : List UInt8 :=
  sanitize bytes.length bytes

theorem decodeRune_eq_some {bytes : List UInt8} {char : Char} (found : decodeRune bytes = some char) :
    bytes = String.utf8EncodeChar char ++ bytes.drop char.utf8Size := by
  obtain ⟨rest, whole⟩ := ByteArray.exists_of_utf8DecodeChar?_eq_some found
  have same : bytes = String.utf8EncodeChar char ++ rest.data.toList := by
    have lists := congrArg (fun array => array.data.toList) whole
    simpa using lists
  rw [← String.length_utf8EncodeChar]
  nth_rewrite 1 [same]
  rw [same, List.drop_left]

theorem decodeRune_encode (char : Char) (rest : List UInt8) :
    decodeRune (String.utf8EncodeChar char ++ rest) = some char := by
  unfold decodeRune
  rw [List.toByteArray_append]
  exact ByteArray.utf8DecodeChar?_utf8EncodeChar_append

section Rounds

variable {byte : UInt8} {rest : List UInt8} (fuel : Nat)

theorem sanitize_of_some {char : Char} (found : decodeRune (byte :: rest) = some char) :
    sanitize (fuel + 1) (byte :: rest) =
      String.utf8EncodeChar char ++ sanitize fuel ((byte :: rest).drop char.utf8Size) := by
  rw [sanitize, found]

theorem sanitize_of_none (found : decodeRune (byte :: rest) = none) :
    sanitize (fuel + 1) (byte :: rest) = replacement ++ sanitize fuel rest := by
  rw [sanitize, found]

end Rounds

theorem sanitize_encode {fuel : Nat} (char : Char) (rest : List UInt8) :
    sanitize (fuel + 1) (String.utf8EncodeChar char ++ rest) =
      String.utf8EncodeChar char ++ sanitize fuel rest := by
  have positive := Char.utf8Size_pos char
  rcases bytes : String.utf8EncodeChar char ++ rest with _ | ⟨byte, others⟩
  · have length := congrArg List.length bytes
    rw [List.length_append, String.length_utf8EncodeChar, List.length_nil] at length
    omega
  · have found := decodeRune_encode char rest
    rw [bytes] at found
    rw [sanitize_of_some fuel found, ← bytes, ← String.length_utf8EncodeChar, List.drop_left]

theorem length_le_sanitize {fuel : Nat} {bytes : List UInt8} (enough : bytes.length ≤ fuel) :
    bytes.length ≤ (sanitize fuel bytes).length := by
  induction fuel generalizing bytes with
  | zero => exact enough
  | succ fuel hypothesis =>
    rcases bytes with _ | ⟨byte, rest⟩
    · exact Nat.zero_le _
    · rw [List.length_cons] at enough
      rcases found : decodeRune (byte :: rest) with _ | char
      · rw [sanitize_of_none fuel found]
        have longer := @hypothesis rest (by omega)
        simp only [replacement, List.length_append, List.length_cons, List.length_nil]
        omega
      · have positive := Char.utf8Size_pos char
        have split := congrArg List.length (decodeRune_eq_some found)
        rw [List.length_append, String.length_utf8EncodeChar] at split
        have longer := @hypothesis ((byte :: rest).drop char.utf8Size) (by
          rw [List.length_drop, List.length_cons]
          omega)
        rw [sanitize_of_some fuel found, List.length_append, String.length_utf8EncodeChar]
        omega

theorem sanitize_eq_iff {fuel : Nat} {bytes : List UInt8} (enough : bytes.length ≤ fuel) :
    sanitize fuel bytes = bytes ↔ Valid bytes := by
  induction fuel generalizing bytes with
  | zero =>
    obtain rfl := List.length_eq_zero_iff.mp (Nat.le_zero.mp enough)
    exact iff_of_true rfl ⟨[], rfl⟩
  | succ fuel hypothesis =>
    rcases bytes with _ | ⟨byte, rest⟩
    · exact iff_of_true rfl ⟨[], rfl⟩
    · rw [List.length_cons] at enough
      rcases found : decodeRune (byte :: rest) with _ | char
      · -- three bytes in the place of one
        refine iff_of_false (fun same => ?_) ?_
        · rw [sanitize_of_none fuel found] at same
          have lengths := congrArg List.length same
          have longer := @length_le_sanitize fuel rest (by omega)
          simp only [replacement, List.length_append, List.length_cons, List.length_nil] at lengths
          omega
        · rintro ⟨_ | ⟨first, others⟩, whole⟩
          · exact absurd whole (List.cons_ne_nil _ _)
          · rw [whole, encode, List.flatMap_cons, decodeRune_encode] at found
            exact absurd found (Option.some_ne_none _)
      · have split := decodeRune_eq_some found
        have positive := Char.utf8Size_pos char
        have fewer : ((byte :: rest).drop char.utf8Size).length ≤ fuel := by
          rw [List.length_drop, List.length_cons]
          omega
        rw [split, sanitize_encode, List.append_cancel_left_eq, hypothesis fewer]
        constructor
        · rintro ⟨others, same⟩
          exact ⟨char :: others, by rw [same, encode, encode, List.flatMap_cons]⟩
        · rintro ⟨_ | ⟨first, others⟩, whole⟩
          · rw [← split] at whole
            exact absurd whole (List.cons_ne_nil _ _)
          · rw [encode, List.flatMap_cons] at whole
            have same := congrArg decodeRune whole
            rw [decodeRune_encode, decodeRune_encode] at same
            obtain rfl := Option.some.inj same
            exact ⟨others, List.append_cancel_left whole⟩

theorem asText_eq_iff {bytes : List UInt8} : asText bytes = bytes ↔ Valid bytes :=
  sanitize_eq_iff (Nat.le_refl _)

/-! ### Runes -/

/-- The characters of a text in order, with nothing for a byte that belongs to none. -/
def runesFrom : Nat → List UInt8 → List (Option Char)
  | 0, _ => []
  | _ + 1, [] => []
  | fuel + 1, byte :: rest =>
    match decodeRune (byte :: rest) with
    | some char => some char :: runesFrom fuel ((byte :: rest).drop char.utf8Size)
    | none => none :: runesFrom fuel rest

def runes (bytes : List UInt8) : List (Option Char) :=
  runesFrom bytes.length bytes

/-- The characters that a loop over a text reads. -/
def text (bytes : List UInt8) : List Char :=
  (runes bytes).map (·.getD '\uFFFD')

theorem encode_append (chars others : List Char) : encode (chars ++ others) = encode chars ++ encode others :=
  List.flatMap_append

theorem encode_runesFrom (fuel : Nat) (bytes : List UInt8) :
    encode ((runesFrom fuel bytes).map (·.getD '\uFFFD')) = sanitize fuel bytes := by
  induction fuel generalizing bytes with
  | zero => rfl
  | succ fuel hypothesis =>
    rcases bytes with _ | ⟨byte, rest⟩
    · rfl
    · rcases found : decodeRune (byte :: rest) with _ | char
      · rw [sanitize_of_none fuel found, runesFrom, found]
        dsimp only
        rw [List.map_cons, encode, List.flatMap_cons, ← encode, hypothesis]
        rfl
      · rw [sanitize_of_some fuel found, runesFrom, found]
        dsimp only
        rw [List.map_cons, encode, List.flatMap_cons, ← encode, hypothesis]
        rfl

theorem encode_text (bytes : List UInt8) : encode (text bytes) = asText bytes :=
  encode_runesFrom bytes.length bytes

theorem runesFrom_encode (chars : List Char) {fuel : Nat} (enough : (encode chars).length ≤ fuel) :
    runesFrom fuel (encode chars) = chars.map some := by
  induction chars generalizing fuel with
  | nil =>
    cases fuel with
    | zero => rfl
    | succ fuel => rfl
  | cons char chars hypothesis =>
    have positive := Char.utf8Size_pos char
    rw [encode, List.flatMap_cons, ← encode] at enough ⊢
    rw [List.length_append, String.length_utf8EncodeChar] at enough
    cases fuel with
    | zero => omega
    | succ fuel =>
      rcases bytes : String.utf8EncodeChar char ++ encode chars with _ | ⟨byte, others⟩
      · have length := congrArg List.length bytes
        rw [List.length_append, String.length_utf8EncodeChar, List.length_nil] at length
        omega
      · rw [runesFrom, ← bytes, decodeRune_encode]
        dsimp only
        rw [← String.length_utf8EncodeChar, List.drop_left, hypothesis (by omega), List.map_cons]

theorem text_encode (chars : List Char) : text (encode chars) = chars := by
  rw [text, runes, runesFrom_encode chars (Nat.le_refl _), List.map_map]
  exact List.map_id chars

/-! ### Bytes below 128 -/

theorem toNat_eq_of_mem {byte : UInt8} {char : Char} (small : byte.toNat < 128)
    (among : byte ∈ String.utf8EncodeChar char) : char.toNat = byte.toNat := by
  have bound : char.val.toNat < 1114112 := by
    have valid := char.valid
    simp only [UInt32.isValidChar, Nat.isValidChar] at valid
    omega
  unfold String.utf8EncodeChar at among
  show char.val.toNat = _
  generalize char.val.toNat = code at among bound
  dsimp only at among
  split at among
  · simp only [List.mem_singleton] at among
    subst among
    simp only [UInt8.toNat_ofNat']
    omega
  · split at among
    · simp only [List.mem_cons, List.not_mem_nil, or_false] at among
      rcases among with rfl | rfl <;> simp only [UInt8.toNat_ofNat'] at small <;> omega
    · split at among
      · simp only [List.mem_cons, List.not_mem_nil, or_false] at among
        rcases among with rfl | rfl | rfl <;> simp only [UInt8.toNat_ofNat'] at small <;> omega
      · simp only [List.mem_cons, List.not_mem_nil, or_false] at among
        rcases among with rfl | rfl | rfl | rfl <;> simp only [UInt8.toNat_ofNat'] at small <;> omega

section Ascii

variable {byte : UInt8} {char : Char}

theorem mem_encode_iff (alone : String.utf8EncodeChar char = [byte]) (small : byte.toNat < 128)
    (chars : List Char) :
    byte ∈ encode chars ↔ char ∈ chars := by
  constructor
  · intro among
    obtain ⟨other, member, encoded⟩ := List.mem_flatMap.mp among
    have here : byte ∈ String.utf8EncodeChar char := alone ▸ List.mem_singleton_self byte
    have same := (toNat_eq_of_mem small encoded).trans (toNat_eq_of_mem small here).symm
    rwa [Char.toNat_inj.mp same] at member
  · intro member
    exact List.mem_flatMap.mpr ⟨char, member, alone ▸ List.mem_singleton_self byte⟩

theorem mem_sanitize_iff (alone : String.utf8EncodeChar char = [byte]) (small : byte.toNat < 128) {fuel : Nat}
    {bytes : List UInt8} (enough : bytes.length ≤ fuel) : byte ∈ sanitize fuel bytes ↔ byte ∈ bytes := by
  induction fuel generalizing bytes with
  | zero =>
    obtain rfl := List.length_eq_zero_iff.mp (Nat.le_zero.mp enough)
    exact Iff.rfl
  | succ fuel hypothesis =>
    rcases bytes with _ | ⟨first, rest⟩
    · exact Iff.rfl
    · rw [List.length_cons] at enough
      rcases found : decodeRune (first :: rest) with _ | other
      · rw [sanitize_of_none fuel found]
        have different : byte ≠ first := by
          rintro rfl
          have decoded := decodeRune_encode char rest
          rw [alone] at decoded
          exact Option.some_ne_none _ (decoded.symm.trans found)
        have replaced : byte ∉ replacement := by
          intro among
          simp only [replacement, List.mem_cons, List.not_mem_nil, or_false] at among
          rcases among with rfl | rfl | rfl <;> exact absurd small (by decide)
        rw [List.mem_append, hypothesis (by omega), List.mem_cons]
        exact or_congr (iff_of_false replaced different) Iff.rfl
      · have split := decodeRune_eq_some found
        have positive := Char.utf8Size_pos other
        have fewer : ((first :: rest).drop other.utf8Size).length ≤ fuel := by
          rw [List.length_drop, List.length_cons]
          omega
        rw [split, sanitize_encode, List.mem_append, List.mem_append, hypothesis fewer]

theorem mem_text_iff (alone : String.utf8EncodeChar char = [byte]) (small : byte.toNat < 128)
    (bytes : List UInt8) :
    char ∈ text bytes ↔ byte ∈ bytes := by
  rw [← mem_encode_iff alone small, encode_text]
  exact mem_sanitize_iff alone small (Nat.le_refl _)

end Ascii

/-! ### The bytes of one character -/

/-- A byte that stands behind the first of its character. -/
def Continues (byte : UInt8) : Prop :=
  byte &&& 0xC0 = 0x80

instance : DecidablePred Continues := fun byte =>
  inferInstanceAs (Decidable (byte &&& 0xC0 = 0x80))

theorem continues_masked (byte : UInt8) : Continues (byte &&& 0x3f ||| 0x80) := by
  obtain ⟨bits⟩ := byte
  revert bits
  decide

theorem leads_masked (byte : UInt8) :
    (¬ Continues (byte &&& 0x1f ||| 0xc0) ∧ 128 ≤ (byte &&& 0x1f ||| 0xc0).toNat) ∧
    (¬ Continues (byte &&& 0x0f ||| 0xe0) ∧ 128 ≤ (byte &&& 0x0f ||| 0xe0).toNat) ∧
    (¬ Continues (byte &&& 0x07 ||| 0xf0) ∧ 128 ≤ (byte &&& 0x07 ||| 0xf0).toNat) := by
  obtain ⟨bits⟩ := byte
  revert bits
  decide

theorem not_continues_of_small {byte : UInt8} (small : byte.toNat < 128) : ¬ Continues byte := by
  obtain ⟨bits⟩ := byte
  revert bits
  decide

theorem utf8EncodeChar_shape (char : Char) : ∃ lead tail, String.utf8EncodeChar char = lead :: tail ∧
    ¬ Continues lead ∧ (∀ byte ∈ tail, Continues byte) ∧ (lead.toNat < 128 ↔ tail = []) := by
  have size : char.utf8Size = 1 ∨ char.utf8Size = 2 ∨ char.utf8Size = 3 ∨ char.utf8Size = 4 := by
    have positive := char.utf8Size_pos
    have bound := char.utf8Size_le_four
    omega
  rcases size with one | two | three | four
  · refine ⟨_, _, String.utf8EncodeChar_eq_singleton one, ?_⟩
    have small : char.val.toUInt8.toNat < 128 := by
      have bound := UInt32.le_iff_toNat_le.mp (Char.utf8Size_eq_one_iff.mp one)
      have literal : (127 : UInt32).toNat = 127 := rfl
      rw [literal] at bound
      rw [UInt32.toNat_toUInt8]
      omega
    exact ⟨not_continues_of_small small, List.forall_mem_nil _, iff_of_true small rfl⟩
  · obtain ⟨leads, large⟩ := (leads_masked (char.val >>> 6).toUInt8).1
    exact ⟨_, _, String.utf8EncodeChar_eq_cons_cons two, leads,
      List.forall_mem_singleton.mpr (continues_masked _), iff_of_false (Nat.not_lt.mpr large) (List.cons_ne_nil _ _)⟩
  · obtain ⟨leads, large⟩ := (leads_masked (char.val >>> 12).toUInt8).2.1
    exact ⟨_, _, String.utf8EncodeChar_eq_cons_cons_cons three, leads,
      List.forall_mem_cons.mpr ⟨continues_masked _, List.forall_mem_singleton.mpr (continues_masked _)⟩,
      iff_of_false (Nat.not_lt.mpr large) (List.cons_ne_nil _ _)⟩
  · obtain ⟨leads, large⟩ := (leads_masked (char.val >>> 18).toUInt8).2.2
    exact ⟨_, _, String.utf8EncodeChar_eq_cons_cons_cons_cons four, leads,
      List.forall_mem_cons.mpr ⟨continues_masked _,
        List.forall_mem_cons.mpr ⟨continues_masked _, List.forall_mem_singleton.mpr (continues_masked _)⟩⟩,
      iff_of_false (Nat.not_lt.mpr large) (List.cons_ne_nil _ _)⟩

theorem encode_cons (char : Char) (chars : List Char) :
    encode (char :: chars) = String.utf8EncodeChar char ++ encode chars :=
  List.flatMap_cons

theorem valid_append_iff (chars : List Char) (rest : List UInt8) :
    Valid (encode chars ++ rest) ↔ Valid rest := by
  constructor
  · intro valid
    induction chars with
    | nil => exact valid
    | cons char chars hypothesis =>
      refine hypothesis ?_
      obtain ⟨others, whole⟩ := valid
      rw [encode_cons, List.append_assoc] at whole
      have decoded := congrArg decodeRune whole
      rw [decodeRune_encode] at decoded
      cases others with
      | nil => exact absurd (List.append_eq_nil_iff.mp whole).1 String.utf8EncodeChar_ne_nil
      | cons other others =>
        rw [encode_cons] at whole decoded
        rw [decodeRune_encode] at decoded
        obtain rfl := Option.some.inj decoded
        exact ⟨others, List.append_cancel_left whole⟩
  · rintro ⟨others, rfl⟩
    exact ⟨chars ++ others, (encode_append chars others).symm⟩

theorem not_valid_lead {lead next : UInt8} (large : 128 ≤ lead.toNat) (starts : ¬ Continues next)
    (rest : List UInt8) : ¬ Valid (lead :: next :: rest) := by
  rintro ⟨chars, whole⟩
  cases chars with
  | nil => exact List.cons_ne_nil _ _ whole
  | cons char chars =>
    obtain ⟨first, tail, shape, -, goesOn, alone⟩ := utf8EncodeChar_shape char
    rw [encode_cons, shape] at whole
    obtain ⟨rfl, behind⟩ := List.cons.inj whole
    cases tail with
    | nil => exact absurd (alone.mpr rfl) (Nat.not_lt.mpr large)
    | cons second tail =>
      obtain ⟨rfl, -⟩ := List.cons.inj behind
      exact starts (goesOn next List.mem_cons_self)

theorem exists_char_at (chars : List Char) {place : Nat} (inside : place < (encode chars).length) :
    ∃ before char after, chars = before ++ char :: after ∧ (encode before).length ≤ place ∧
      place < (encode before).length + char.utf8Size := by
  induction chars generalizing place with
  | nil => exact absurd inside (Nat.not_lt_zero place)
  | cons first chars hypothesis =>
    rw [encode_cons, List.length_append, String.length_utf8EncodeChar] at inside
    by_cases here : place < first.utf8Size
    · exact ⟨[], first, chars, rfl, Nat.zero_le place, (Nat.zero_add _).symm ▸ here⟩
    · obtain ⟨before, char, after, rfl, above, below⟩ := @hypothesis (place - first.utf8Size) (by omega)
      have length : (encode (first :: before)).length = first.utf8Size + (encode before).length := by
        rw [encode_cons, List.length_append, String.length_utf8EncodeChar]
      exact ⟨first :: before, char, after, rfl, by omega, by omega⟩

end Utf8
