import UnifyAir.Concurrency.System

/-!
# Store — a table with an index

Values are stored under names, and an index has a key of each: it says at once whether a value
with that key is stored. The two are written one after the other. They agree when the index has
exactly the keys of the stored values, and no two of these share a key.

* **`Indexed.insert`** — both are written for a value whose name and key are new.
* **`Indexed.remove`** — both are written for a value that is taken out.
-/

namespace Store

open Concurrency

variable {κ ι α : Type}

/-- The index has the keys of the stored values, each of one value. -/
structure Indexed (table : κ → Option α) (index : ι → Bool) (key : α → ι) : Prop where
  mem_iff : ∀ i, index i = true ↔ ∃ k a, table k = some a ∧ key a = i
  unique : ∀ k k' a a', table k = some a → table k' = some a' → key a = key a' → k = k'

namespace Indexed

variable {table : κ → Option α} {index : ι → Bool} {key : α → ι}

theorem empty (key : α → ι) : Indexed (fun _ : κ => none) (fun _ => false) key where
  mem_iff _ := ⟨nofun, nofun⟩
  unique := nofun

variable [DecidableEq κ] [DecidableEq ι]

/-- A value is stored under a free name, and its key was not in the index. Then the key is of no
other value, so the index is right with both written. -/
theorem insert (h : Indexed table index key) {k : κ} {a : α} (hname : table k = none)
    (hkey : index (key a) = false) :
    Indexed (Function.update table k (some a)) (Function.update index (key a) true) key where
  mem_iff i := by
    by_cases hi : i = key a
    · subst hi
      rw [Function.update_self]
      exact ⟨fun _ => ⟨k, a, Function.update_self .., rfl⟩, fun _ => rfl⟩
    · rw [Function.update_of_ne hi, h.mem_iff]
      constructor
      · intro ⟨k', a', hk', ha'⟩
        have hne : k' ≠ k := fun heq => by
          rw [heq, hname] at hk'
          cases hk'
        exact ⟨k', a', (Function.update_of_ne hne ..).trans hk', ha'⟩
      · intro ⟨k', a', hk', ha'⟩
        rcases update_cases hk' with ⟨-, hnew⟩ | ⟨-, hold⟩
        · cases hnew
          exact (hi ha'.symm).elim
        · exact ⟨k', a', hold, ha'⟩
  unique k₁ k₂ a₁ a₂ h₁ h₂ hkeys := by
    -- a value that was stored before has a key of its own
    -- a value with this key would be in the index
    have hother : ∀ {k' : κ} {a' : α}, table k' = some a' → key a' ≠ key a := fun hk' heq => by
      rw [(h.mem_iff _).mpr ⟨_, _, hk', heq⟩] at hkey
      cases hkey
    rcases update_cases h₁ with ⟨rfl, hnew₁⟩ | ⟨-, hold₁⟩ <;>
      rcases update_cases h₂ with ⟨rfl, hnew₂⟩ | ⟨-, hold₂⟩
    · rfl
    · cases hnew₁
      exact (hother hold₂ hkeys.symm).elim
    · cases hnew₂
      exact (hother hold₁ hkeys).elim
    · exact h.unique k₁ k₂ a₁ a₂ hold₁ hold₂ hkeys

/-- A stored value is removed, and its key with it. The key was of this value only, so that no other
is left without its key in the index. -/
theorem remove (h : Indexed table index key) {k : κ} {a : α} (hk : table k = some a) :
    Indexed (Function.update table k none) (Function.update index (key a) false) key where
  mem_iff i := by
    by_cases hi : i = key a
    · subst hi
      rw [Function.update_self]
      refine ⟨nofun, fun ⟨k', a', hk', ha'⟩ => ?_⟩
      rcases update_cases hk' with ⟨-, hnew⟩ | ⟨hne, hold⟩
      · cases hnew
      · exact (hne (h.unique k' k a' a hold hk ha')).elim
    · rw [Function.update_of_ne hi, h.mem_iff]
      constructor
      · intro ⟨k', a', hk', ha'⟩
        have hne : k' ≠ k := fun heq => by
          rw [heq, hk, Option.some.injEq] at hk'
          exact hi (by rw [hk', ha'])
        exact ⟨k', a', (Function.update_of_ne hne ..).trans hk', ha'⟩
      · intro ⟨k', a', hk', ha'⟩
        rcases update_cases hk' with ⟨-, hnew⟩ | ⟨-, hold⟩
        · cases hnew
        · exact ⟨k', a', hold, ha'⟩
  unique k₁ k₂ a₁ a₂ h₁ h₂ hkeys := by
    rcases update_cases h₁ with ⟨-, hnew⟩ | ⟨-, hold₁⟩
    · cases hnew
    · rcases update_cases h₂ with ⟨-, hnew⟩ | ⟨-, hold₂⟩
      · cases hnew
      · exact h.unique k₁ k₂ a₁ a₂ hold₁ hold₂ hkeys

end Indexed

end Store
