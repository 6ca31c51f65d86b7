/-
This file asks whether the texts that are cut for an operator stay valid.

The cut walks back as long as the byte in front of it goes on with a character. It then stands
behind the first byte of that character, and not in front of it.
-/

import MqConnector.Models
import MqConnector.Utf8

namespace MqConnector

/-- The loop of the cut. -/
def walkBack (s : Bytes) : Nat → Nat
  | 0 => 0
  | cut + 1 => if ∃ byte ∈ s[cut]?, Utf8.Continues byte then walkBack s cut else cut + 1

/-- `…`. -/
def ellipsis : Bytes := [0xE2, 0x80, 0xA6]

/-- `clamp` of the names of clusters. -/
def clamp (s : Bytes) (max : Nat) : Bytes :=
  if s.length ≤ max then s
  else
    let cut := walkBack s max
    if cut = 0 then [] else s.take cut ++ ellipsis

/-- `truncate` of the explanations. -/
def truncate (s : Bytes) (max : Nat) : Bytes :=
  if s.length ≤ max then s
  else
    let cut := walkBack s max
    if cut = 0 then [] else s.take cut ++ ellipsis

/-! ### What is promised -/

/-- The longest prefix of so many bytes that ends at the end of a character. -/
structure IsLongest (s : Bytes) (max : Nat) (kept : Bytes) : Prop where
  starts : kept <+: s
  valid : Utf8.Valid kept
  fits : kept.length ≤ max
  longest : ∀ other, other <+: s → Utf8.Valid other → other.length ≤ max → other.length ≤ kept.length

/-- A valid text that is cut to so many bytes. -/
structure Truncates (s : Bytes) (max : Nat) (result : Bytes) : Prop where
  valid : Utf8.Valid result
  whole : s.length ≤ max → result = s
  cut : max < s.length → ∃ kept, IsLongest s max kept ∧ result = if kept = [] then [] else kept ++ ellipsis

/-! ### Where the cut stands -/

section Cut

variable {left right tail : Bytes} {lead : UInt8}

theorem getElem?_behind (left : Bytes) (byte : UInt8) (rest : Bytes) :
    (left ++ byte :: rest)[left.length]? = some byte := by
  rw [List.getElem?_append_right (Nat.le_refl _), Nat.sub_self, List.getElem?_cons_zero]

theorem walkBack_lead (starts : ¬ Utf8.Continues lead) (goesOn : ∀ byte ∈ tail, Utf8.Continues byte)
    {count : Nat}
    (within : count ≤ tail.length) :
    walkBack (left ++ (lead :: tail) ++ right) (left.length + 1 + count) = left.length + 1 := by
  rw [List.append_assoc, List.cons_append]
  induction count with
  | zero =>
    have there : (left ++ lead :: (tail ++ right))[left.length]? = some lead := getElem?_behind left lead _
    rw [Nat.add_zero, walkBack, there, if_neg]
    rintro ⟨byte, same, continues⟩
    exact starts (Option.some.inj same ▸ continues)
  | succ count hypothesis =>
    have inside : count < tail.length := within
    have there : (left ++ lead :: (tail ++ right))[left.length + 1 + count]? = some tail[count] := by
      rw [List.getElem?_append_right (by omega), show left.length + 1 + count - left.length = count + 1 by omega,
        List.getElem?_cons_succ, List.getElem?_append_left inside, List.getElem?_eq_getElem inside]
    rw [← Nat.add_assoc, walkBack, there, if_pos ⟨_, rfl, goesOn _ (List.getElem_mem inside)⟩]
    exact hypothesis (Nat.le_of_lt inside)

theorem clamp_char (starts : ¬ Utf8.Continues lead) (goesOn : ∀ byte ∈ tail, Utf8.Continues byte) {max : Nat}
    (above : left.length < max) (below : max ≤ left.length + 1 + tail.length)
    (long : max < (left ++ (lead :: tail) ++ right).length) :
    clamp (left ++ (lead :: tail) ++ right) max = left ++ lead :: ellipsis := by
  obtain ⟨count, rfl⟩ := Nat.exists_eq_add_of_le (show left.length + 1 ≤ max from above)
  rw [clamp, if_neg (Nat.not_le.mpr long), walkBack_lead starts goesOn (Nat.add_le_add_iff_left.mp below)]
  dsimp only
  rw [if_neg (Nat.succ_ne_zero _), List.append_assoc, List.take_length_add_append, List.cons_append, List.take_succ_cons,
    List.take_zero, List.append_assoc, List.singleton_append]

end Cut

theorem truncate_eq : truncate = clamp :=
  rfl

section Texts

variable {chars : List Char} {max : Nat}

/-- A cut behind a byte that is no letter of its own leaves no text. -/
theorem not_valid_clamp {byte : UInt8} (positive : 1 ≤ max) (long : max < (Utf8.encode chars).length)
    (last : (Utf8.encode chars)[max - 1]? = some byte) (large : 128 ≤ byte.toNat) :
    ¬ Utf8.Valid (clamp (Utf8.encode chars) max) := by
  obtain ⟨before, char, after, rfl, above, below⟩ :=
    Utf8.exists_char_at chars (show max - 1 < (Utf8.encode chars).length by omega)
  obtain ⟨lead, tail, shape, starts, goesOn, alone⟩ := Utf8.utf8EncodeChar_shape char
  have whole :
      Utf8.encode (before ++ char :: after) = Utf8.encode before ++ (lead :: tail) ++ Utf8.encode after := by
    rw [Utf8.encode_append, Utf8.encode_cons, shape, List.append_assoc]
  rw [← String.length_utf8EncodeChar, shape, List.length_cons] at below
  rw [whole] at long last ⊢
  rw [clamp_char starts goesOn (by omega) (by omega) long, Utf8.valid_append_iff]
  have several : 128 ≤ lead.toNat := by
    rw [← Nat.not_lt]
    intro small
    obtain rfl := alone.mp small
    have here : max - 1 = (Utf8.encode before).length := by
      rw [List.length_nil] at below
      omega
    rw [here, List.append_assoc, List.singleton_append, getElem?_behind] at last
    obtain rfl := Option.some.inj last
    exact absurd small (Nat.not_lt.mpr large)
  exact Utf8.not_valid_lead several (by decide) _

theorem truncates_of_fits (fits : (Utf8.encode chars).length ≤ max) :
    Truncates (Utf8.encode chars) max (clamp (Utf8.encode chars) max) := by
  rw [clamp, if_pos fits]
  exact ⟨⟨chars, rfl⟩, fun _ => rfl, fun long => absurd fits (Nat.not_le.mpr long)⟩

theorem truncates_of_small {byte : UInt8} (positive : 1 ≤ max) (long : max < (Utf8.encode chars).length)
    (last : (Utf8.encode chars)[max - 1]? = some byte) (small : byte.toNat < 128) :
    Truncates (Utf8.encode chars) max (clamp (Utf8.encode chars) max) := by
  obtain ⟨before, char, after, rfl, above, below⟩ :=
    Utf8.exists_char_at chars (show max - 1 < (Utf8.encode chars).length by omega)
  obtain ⟨lead, tail, shape, starts, goesOn, alone⟩ := Utf8.utf8EncodeChar_shape char
  have whole :
      Utf8.encode (before ++ char :: after) = Utf8.encode before ++ (lead :: tail) ++ Utf8.encode after := by
    rw [Utf8.encode_append, Utf8.encode_cons, shape, List.append_assoc]
  rw [← String.length_utf8EncodeChar, shape, List.length_cons] at below
  -- a byte below 128 goes on with no character
  have first : max - 1 = (Utf8.encode before).length := by
    by_contra differs
    obtain ⟨count, place⟩ := Nat.exists_eq_add_of_le (show (Utf8.encode before).length + 1 ≤ max - 1 by omega)
    have inside : count < tail.length := by omega
    rw [whole, List.append_assoc, List.getElem?_append_right above,
      show max - 1 - (Utf8.encode before).length = count + 1 by omega, List.cons_append, List.getElem?_cons_succ,
      List.getElem?_append_left inside, List.getElem?_eq_getElem inside] at last
    have continues := goesOn _ (List.getElem_mem inside)
    rw [Option.some.inj last] at continues
    exact Utf8.not_continues_of_small small continues
  have same : lead = byte := by
    rw [whole, first, List.append_assoc, List.cons_append, getElem?_behind] at last
    exact Option.some.inj last
  obtain rfl := alone.mp (same ▸ small)
  have kept : Utf8.encode before ++ [lead] = Utf8.encode (before ++ [char]) := by
    rw [Utf8.encode_append, Utf8.encode_cons, shape]
    rfl
  have size : (Utf8.encode before ++ [lead]).length = max := by
    rw [List.length_append, List.length_singleton]
    omega
  have cut : clamp (Utf8.encode before ++ [lead] ++ Utf8.encode after) max = Utf8.encode before ++ lead :: ellipsis :=
    clamp_char starts goesOn (by omega) (by omega) (whole ▸ long)
  rw [whole, cut]
  refine ⟨?_, fun fits => absurd fits (Nat.not_le.mpr (whole ▸ long)), fun _ => ?_⟩
  · have dots : Utf8.encode ['…'] = ellipsis := by decide
    rw [List.append_cons, kept, ← dots, ← Utf8.encode_append]
    exact ⟨_, rfl⟩
  · refine ⟨Utf8.encode before ++ [lead], ⟨⟨_, rfl⟩, ⟨_, kept⟩, size.le, ?_⟩, ?_⟩
    · exact fun other _ _ fits => size.symm ▸ fits
    · rw [if_neg (List.append_ne_nil_of_right_ne_nil _ (List.cons_ne_nil _ _)), List.append_cons]

/-- Both truncations are exact where the text fits or its last byte within the bound is a letter of one
byte. -/
theorem truncates_iff (chars : List Char) (positive : 1 ≤ max) :
    (Truncates (Utf8.encode chars) max (clamp (Utf8.encode chars) max) ∧
      Truncates (Utf8.encode chars) max (truncate (Utf8.encode chars) max)) ↔
    (Utf8.encode chars).length ≤ max ∨ ∃ byte ∈ (Utf8.encode chars)[max - 1]?, byte.toNat < 128 := by
  rw [truncate_eq, and_self]
  by_cases fits : (Utf8.encode chars).length ≤ max
  · exact iff_of_true (truncates_of_fits fits) (.inl fits)
  · have long := Nat.not_le.mp fits
    have inside : max - 1 < (Utf8.encode chars).length := by omega
    have last := List.getElem?_eq_getElem inside
    constructor
    · intro truncates
      refine .inr ⟨_, last, ?_⟩
      by_contra large
      exact not_valid_clamp positive long last (Nat.not_lt.mp large) truncates.valid
    · rintro (short | ⟨byte, there, small⟩)
      · exact absurd short fits
      · exact truncates_of_small positive long there small

/-- A bound of one byte keeps the letter before `é`. -/
theorem truncates_iff_letter : Truncates (Utf8.encode ['h', 'é']) 1 (clamp (Utf8.encode ['h', 'é']) 1) :=
  ((truncates_iff ['h', 'é'] (le_refl 1)).mpr (.inr ⟨104, rfl, by decide⟩)).1

end Texts

def TruncatesAll : Prop :=
  ∀ (chars : List Char) (max : Nat), 1 ≤ max →
    Truncates (Utf8.encode chars) max (clamp (Utf8.encode chars) max) ∧
    Truncates (Utf8.encode chars) max (truncate (Utf8.encode chars) max)

/-- The first byte of a letter of two is kept alone. -/
theorem clamp_breaks_letter : ¬ TruncatesAll := by
  intro claimed
  have second : (Utf8.encode ['é', 'é'])[2 - 1]? = some 0xA9 := by decide
  exact not_valid_clamp (by decide) (by decide) second (by decide) (claimed ['é', 'é'] 2 (by decide)).1.valid

end MqConnector
