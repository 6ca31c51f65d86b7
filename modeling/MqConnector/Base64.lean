/-
General: base64 without padding, over lists of bytes.

Three bytes are written as four characters of six bits, and one or two bytes at the end
as two or three characters. The decoder passes over line breaks.
-/

import Mathlib.Data.Fintype.Basic

namespace Base64

def encodeSextet (bits : Nat) : UInt8 :=
  UInt8.ofNat (if bits < 26 then bits + 65 else if bits < 52 then bits + 71
    else if bits < 62 then bits - 4 else if bits = 62 then 43 else 47)

def decodeSextet (char : UInt8) : Option Nat :=
  let code := char.toNat
  if 65 ≤ code ∧ code ≤ 90 then some (code - 65)
  else if 97 ≤ code ∧ code ≤ 122 then some (code - 71)
  else if 48 ≤ code ∧ code ≤ 57 then some (code + 4)
  else if code = 43 then some 62
  else if code = 47 then some 63
  else none

def split : List UInt8 → List Nat
  | first :: second :: third :: rest =>
    first.toNat / 4 :: (first.toNat % 4 * 16 + second.toNat / 16) ::
      (second.toNat % 16 * 4 + third.toNat / 64) :: third.toNat % 64 :: split rest
  | [first, second] =>
    [first.toNat / 4, first.toNat % 4 * 16 + second.toNat / 16, second.toNat % 16 * 4]
  | [first] => [first.toNat / 4, first.toNat % 4 * 16]
  | [] => []

def join : List Nat → Option (List UInt8)
  | first :: second :: third :: fourth :: rest => (join rest).map fun bytes =>
    UInt8.ofNat (first * 4 + second / 16) :: UInt8.ofNat (second % 16 * 16 + third / 4) ::
      UInt8.ofNat (third % 4 * 64 + fourth) :: bytes
  | [first, second, third] =>
    some [UInt8.ofNat (first * 4 + second / 16), UInt8.ofNat (second % 16 * 16 + third / 4)]
  | [first, second] => some [UInt8.ofNat (first * 4 + second / 16)]
  | [_] => none
  | [] => some []

def encode (bytes : List UInt8) : List UInt8 :=
  (split bytes).map encodeSextet

def decode (text : List UInt8) : Option (List UInt8) :=
  ((text.filter fun char => char != 10 && char != 13).mapM decodeSextet).bind join

theorem decodeSextet_encodeSextet {bits : Nat} (small : bits < 64) :
    decodeSextet (encodeSextet bits) = some bits ∧ encodeSextet bits ≠ 10 ∧ encodeSextet bits ≠ 13 := by
  have all : ∀ bits : Fin 64, decodeSextet (encodeSextet bits) = some bits.val ∧
      encodeSextet bits ≠ 10 ∧ encodeSextet bits ≠ 13 := by
    decide
  exact all ⟨bits, small⟩

theorem split_lt (bytes : List UInt8) : ∀ bits ∈ split bytes, bits < 64 := by
  fun_induction split bytes with
  | case1 first second third rest hypothesis =>
    have low := first.toNat_lt
    have middle := second.toNat_lt
    have high := third.toNat_lt
    simp only [List.forall_mem_cons]
    exact ⟨by omega, by omega, by omega, by omega, hypothesis⟩
  | case2 first second =>
    have low := first.toNat_lt
    have middle := second.toNat_lt
    simp only [List.forall_mem_cons]
    exact ⟨by omega, by omega, by omega, fun _ member => absurd member List.not_mem_nil⟩
  | case3 first =>
    have low := first.toNat_lt
    simp only [List.forall_mem_cons]
    exact ⟨by omega, by omega, fun _ member => absurd member List.not_mem_nil⟩
  | case4 => exact fun _ member => absurd member List.not_mem_nil

theorem ofNat_eq {number : Nat} (byte : UInt8) (same : number = byte.toNat) : UInt8.ofNat number = byte := by
  rw [same, UInt8.ofNat_toNat]

theorem join_split (bytes : List UInt8) : join (split bytes) = some bytes := by
  fun_induction split bytes with
  | case1 first second third rest hypothesis =>
    have low := first.toNat_lt
    have middle := second.toNat_lt
    have high := third.toNat_lt
    rw [join, hypothesis, Option.map_some, ofNat_eq first (by omega),
      ofNat_eq second (by omega), ofNat_eq third (by omega)]
  | case2 first second =>
    have low := first.toNat_lt
    have middle := second.toNat_lt
    rw [join, ofNat_eq first (by omega), ofNat_eq second (by omega)]
  | case3 first =>
    have low := first.toNat_lt
    rw [join, ofNat_eq first (by omega)]
  | case4 => rfl

theorem mapM_encodeSextet {groups : List Nat} (small : ∀ bits ∈ groups, bits < 64) :
    ((groups.map encodeSextet).filter fun char => char != 10 && char != 13).mapM decodeSextet =
      some groups := by
  induction groups with
  | nil => rfl
  | cons bits groups hypothesis =>
    obtain ⟨here, others⟩ := List.forall_mem_cons.mp small
    obtain ⟨decoded, noNewline, noReturn⟩ := decodeSextet_encodeSextet here
    rw [List.map_cons, List.filter_cons_of_pos (by simp [noNewline, noReturn]), List.mapM_cons, decoded,
      hypothesis others]
    rfl

theorem decode_encode (bytes : List UInt8) : decode (encode bytes) = some bytes := by
  rw [decode, encode, mapM_encodeSextet (split_lt bytes), Option.bind_some, join_split]

end Base64
