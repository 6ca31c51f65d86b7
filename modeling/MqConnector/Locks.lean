/-
This file is the lock library. It names nothing of the program: parties, each
holding at most one lock in the part of its code it has reached, and a flag for
each lock that says whether it is taken.

Code that locks before it touches and unlocks after keeps one relation between
the two, `Exclusive`: what a party holds is flagged, and nobody else holds it.
The rules say how each kind of step keeps it: taking a lock whose flag is off,
giving one back, flagging off a lock nobody holds, and forgetting.
-/

import Mathlib.Logic.Function.Basic

namespace Locks

variable {Party Lock : Type}

/-- What a party holds is flagged as locked, and no two parties hold the same lock. -/
structure Exclusive (holds : Party → Option Lock) (locked : Lock → Bool) : Prop where
  flagged : ∀ {party lock}, holds party = some lock → locked lock = true
  single : ∀ {first second lock}, holds first = some lock → holds second = some lock →
    first = second

/-- Locks that nobody holds exclude each other. -/
theorem exclusive_none (locked : Lock → Bool) : Exclusive (fun _ : Party => none) locked where
  flagged held := by cases held
  single held := by cases held

namespace Exclusive

variable {holds : Party → Option Lock} {locked : Lock → Bool}

theorem mono {later : Party → Option Lock} {flags : Lock → Bool}
    (exclusive : Exclusive holds locked)
    (fewer : ∀ party lock, later party = some lock → holds party = some lock)
    (more : ∀ lock, locked lock = true → flags lock = true) : Exclusive later flags where
  flagged held := more _ (exclusive.flagged (fewer _ _ held))
  single first second := exclusive.single (fewer _ _ first) (fewer _ _ second)

theorem unflag [DecidableEq Lock] {lock : Lock} (exclusive : Exclusive holds locked)
    (unheld : ∀ party, holds party ≠ some lock) :
    Exclusive holds (Function.update locked lock false) where
  flagged {party other} held := by
    have different : other ≠ lock := by
      rintro rfl
      exact unheld party held
    rw [Function.update_of_ne different]
    exact exclusive.flagged held
  single first second := exclusive.single first second

variable [DecidableEq Party] [DecidableEq Lock]

/-- A free lock may be taken. -/
theorem acquire {party : Party} {lock : Lock} (exclusive : Exclusive holds locked)
    (free : locked lock = false) :
    Exclusive (Function.update holds party (some lock)) (Function.update locked lock true) := by
  -- nobody holds a free lock, so the new holder is the only one
  have unheld : ∀ other, holds other ≠ some lock := by
    intro other held
    rw [exclusive.flagged held] at free
    cases free
  have owner : ∀ other taken, Function.update holds party (some lock) other = some taken →
      (other = party ∧ taken = lock) ∨ holds other = some taken := by
    intro other taken held
    by_cases same : other = party
    · rw [same, Function.update_self, Option.some_inj] at held
      exact Or.inl ⟨same, held.symm⟩
    · rw [Function.update_of_ne same] at held
      exact Or.inr held
  constructor
  · intro other taken held
    by_cases same : taken = lock
    · rw [same, Function.update_self]
    · rw [Function.update_of_ne same]
      rcases owner other taken held with ⟨_, equal⟩ | before
      · exact absurd equal same
      · exact exclusive.flagged before
  · intro first second taken heldFirst heldSecond
    rcases owner first taken heldFirst with ⟨firstIs, takenIs⟩ | firstBefore
    · rcases owner second taken heldSecond with ⟨secondIs, _⟩ | secondBefore
      · rw [firstIs, secondIs]
      · rw [takenIs] at secondBefore
        exact absurd secondBefore (unheld second)
    · rcases owner second taken heldSecond with ⟨_, takenIs⟩ | secondBefore
      · rw [takenIs] at firstBefore
        exact absurd firstBefore (unheld first)
      · exact exclusive.single firstBefore secondBefore

/-- A lock that is given back is free. -/
theorem release {party : Party} {lock : Lock} (exclusive : Exclusive holds locked)
    (held : holds party = some lock) :
    Exclusive (Function.update holds party none) (Function.update locked lock false) := by
  have kept : ∀ other taken, Function.update holds party none other = some taken →
      other ≠ party ∧ holds other = some taken := by
    intro other taken holding
    by_cases same : other = party
    · rw [same, Function.update_self] at holding
      cases holding
    · rw [Function.update_of_ne same] at holding
      exact ⟨same, holding⟩
  have dropped : Exclusive (Function.update holds party none) locked :=
    exclusive.mono (fun other taken holding => (kept other taken holding).2) fun _ flagged => flagged
  refine dropped.unflag fun other holding => ?_
  obtain ⟨different, before⟩ := kept other lock holding
  exact different (exclusive.single before held)

end Exclusive

/-! ### Items that wait -/

/-- Every known item waits, is with a party or is gone. None waits twice, and what a party has
neither waits nor is with another one. -/
structure Accounted {Party Item : Type} [DecidableEq Item] (holds : Party → Option Item)
    (waiting : List Item) (gone known : Item → Prop) : Prop where
  distinct : waiting.Nodup
  exclusive : Exclusive holds fun item => decide (item ∉ waiting)
  located : ∀ item, known item ↔ item ∈ waiting ∨ (∃ party, holds party = some item) ∨ gone item

namespace Accounted

variable {Party Item : Type} [DecidableEq Item] {holds : Party → Option Item} {party : Party}
  {item : Item} {waiting rest : List Item} {gone known : Item → Prop}

/-- A new item waits. -/
theorem add (accounted : Accounted holds waiting gone known) (fresh : ¬ known item) :
    Accounted holds (waiting ++ [item]) gone fun other => known other ∨ other = item := by
  obtain ⟨distinct, exclusive, located⟩ := accounted
  have unheld : ∀ party, holds party ≠ some item := by grind
  refine ⟨by grind, (exclusive.unflag unheld).mono (fun _ _ held => held) ?_, by grind⟩
  grind [Function.update_apply]

theorem record (accounted : Accounted holds waiting gone known) (arrived : known item) :
    Accounted holds waiting (fun other => other = item ∨ gone other) known where
  distinct := accounted.distinct
  exclusive := accounted.exclusive
  located other := by grind [accounted.located other]

variable [DecidableEq Party]

omit [DecidableEq Item] in
theorem held_update {value : Option Item} :
    (∃ someone, Function.update holds party value someone = some item) ↔
      value = some item ∨ ∃ someone ≠ party, holds someone = some item :=
  Function.exists_update_iff holds (p := fun _ held => held = some item)

/-- An item goes from the queue to a free party. -/
theorem take (accounted : Accounted holds waiting gone known) (free : holds party = none)
    (found : waiting.Perm (item :: rest)) :
    Accounted (Function.update holds party (some item)) rest gone known := by
  obtain ⟨distinct, exclusive, located⟩ := accounted
  have apart := found.nodup distinct
  have waits : decide (item ∉ waiting) = false := by simp [found.mem_iff]
  refine ⟨apart.tail, (exclusive.acquire waits).mono (fun _ _ held => held) ?_, ?_⟩
  · grind [Function.update_apply, found.mem_iff]
  · simp only [held_update]
    grind [found.mem_iff]

/-- A held item waits again. -/
theorem putBack (accounted : Accounted holds waiting gone known) (held : holds party = some item) :
    Accounted (Function.update holds party none) (item :: waiting) gone known := by
  obtain ⟨distinct, exclusive, located⟩ := accounted
  have absent := of_decide_eq_true (exclusive.flagged held)
  refine ⟨List.nodup_cons.mpr ⟨absent, distinct⟩,
    (exclusive.release held).mono (fun _ _ held => held) ?_, ?_⟩
  · grind [Function.update_apply]
  · simp only [held_update]
    grind

/-- A held item is gone. -/
theorem drop (accounted : Accounted holds waiting gone known) (held : holds party = some item)
    (left : gone item) : Accounted (Function.update holds party none) waiting gone known := by
  obtain ⟨distinct, exclusive, located⟩ := accounted
  refine ⟨distinct, exclusive.mono ?_ fun _ flagged => flagged, ?_⟩
  · grind [Function.update_apply]
  · simp only [held_update]
    grind

end Accounted

end Locks
