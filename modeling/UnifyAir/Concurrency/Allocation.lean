import UnifyAir.Concurrency.System

/-!
# Concurrency — names handed out by a counter

Tasks allocate names (a `Notify`, a channel, a queue) by taking the next value of a counter
that only grows. `held t` is the name task `t` goes by at the moment, if any. As long as a
task gets a name only from the counter, names are below the counter and no two tasks hold
the same one.
-/

namespace Concurrency

/-- Every name held was handed out, and to one task only. -/
structure Held {τ : Type} (held : τ → Option Nat) (next : Nat) : Prop where
  lt : ∀ t n, held t = some n → n < next
  unique : ∀ t t' n, held t = some n → held t' = some n → t = t'

namespace Held

variable {τ : Type} {held held' : τ → Option Nat} {next : Nat}

/-- At first nobody holds a name, so there is nothing to be shown of the counter. -/
theorem none (next : Nat) : Held (fun _ : τ => Option.none) next :=
  ⟨nofun, nofun⟩

/-- Names may be given up: whoever has one now had it before, so it was handed out and is nobody
else's. -/
theorem keep (h : Held held next) (hkeep : ∀ t n, held' t = some n → held t = some n) :
    Held held' next where
  lt t n ht := h.lt t n (hkeep t n ht)
  unique t t' n ht ht' := h.unique t t' n (hkeep t n ht) (hkeep t' n ht')

variable [DecidableEq τ]

/-- A task takes the next name. No other has it, since all names that are held are below the
counter; what the task held before is lost. -/
theorem alloc (h : Held held next) (t : τ) :
    Held (Function.update held t (some next)) (next + 1) where
  lt t' n ht' := by
    rcases update_cases ht' with ⟨-, hn⟩ | ⟨-, hold⟩
    · cases hn; exact Nat.lt_succ_self _
    · exact Nat.lt_succ_of_lt (h.lt t' n hold)
  unique t₁ t₂ n h₁ h₂ := by
    rcases update_cases h₁ with ⟨rfl, hn₁⟩ | ⟨-, hold₁⟩ <;>
      rcases update_cases h₂ with ⟨rfl, hn₂⟩ | ⟨-, hold₂⟩
    · rfl
    · cases hn₁; exact absurd (h.lt t₂ next hold₂) (Nat.lt_irrefl _)
    · cases hn₂; exact absurd (h.lt t₁ next hold₁) (Nat.lt_irrefl _)
    · exact h.unique t₁ t₂ n hold₁ hold₂

/-- A name passes from one task to another, as a lock that is handed on. In between it has one
holder still, though the table is written twice. -/
theorem move (h : Held held next) {t : τ} {n : Nat} (ht : held t = some n) (t' : τ) :
    Held (Function.update (Function.update held t Option.none) t' (some n)) next := by
  -- whoever has a name now had it before, or it is the name that was passed
  have hcases : ∀ u m, Function.update (Function.update held t Option.none) t' (some n) u = some m →
      (u = t' ∧ m = n) ∨ (u ≠ t ∧ held u = some m) := by
    intro u m hu
    rcases update_cases hu with ⟨rfl, hm⟩ | ⟨-, hu⟩
    · cases hm; exact Or.inl ⟨rfl, rfl⟩
    · rcases update_cases hu with ⟨-, hm⟩ | ⟨hut, hold⟩
      · cases hm
      · exact Or.inr ⟨hut, hold⟩
  refine ⟨fun u m hu => ?_, fun u v m hu hv => ?_⟩
  · rcases hcases u m hu with ⟨-, rfl⟩ | ⟨-, hold⟩
    · exact h.lt t m ht
    · exact h.lt u m hold
  · rcases hcases u m hu with ⟨rfl, rfl⟩ | ⟨hut, hold⟩ <;>
      rcases hcases v _ hv with ⟨rfl, hm⟩ | ⟨hvt, hold'⟩
    · rfl
    · exact absurd (h.unique v t m hold' ht) hvt
    · subst hm; exact absurd (h.unique u t m hold ht) hut
    · exact h.unique u v m hold hold'

end Held

end Concurrency
