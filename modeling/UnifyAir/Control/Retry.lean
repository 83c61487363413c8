/-!
# Retry — a bounded number of attempts

A loop that makes an attempt, returns what it gives if that is `ok`, and makes the next one
otherwise, up to a number of attempts. The attempts are numbered from `first` on, and attempt `k`
may do anything that depends on `k`.

* **`result_eq_some_iff`** — the loop returns what the first attempt to succeed gives.
* **`made_eq`** — it makes that attempt last.
-/

namespace Retry

variable {ε α : Type} (attempt : Nat → Except ε α)

/-- What the loop returns. It asks for attempt `first`, and goes on with the next one and one
attempt fewer if that fails. -/
def result (first : Nat) : Nat → Option α
  | 0 => none
  | n + 1 => match attempt first with
    | .ok a => some a
    | .error _ => result (first + 1) n

/-- How many attempts it makes, by the same recursion: the one that succeeds is counted, and none is
made after it. -/
def made (first : Nat) : Nat → Nat
  | 0 => 0
  | n + 1 => match attempt first with
    | .ok _ => 1
    | .error _ => made (first + 1) n + 1

/-- Attempt `k` is the first of the `n` attempts from `first` on to succeed, and gives `a`. -/
structure Succeeds (first n k : Nat) (a : α) : Prop where
  le : first ≤ k
  lt : k < first + n
  ok : attempt k = .ok a
  failed : ∀ j, first ≤ j → j < k → ∀ b, attempt j ≠ .ok b

variable {attempt} {first n k : Nat} {a : α}

/-- No more attempts are made than are allowed. Induction on how many these are. -/
theorem made_le : made attempt first n ≤ n := by
  induction n generalizing first with
  | zero => exact Nat.le_refl 0
  | succ n ih =>
    unfold made
    split
    · omega
    · exact Nat.succ_le_succ ih

/-- An attempt that succeeds at once is the first to succeed. -/
theorem Succeeds.head (h : attempt first = .ok a) : Succeeds attempt first (n + 1) first a where
  le := Nat.le_refl _
  lt := by omega
  ok := h
  failed j hle hlt := by omega

/-- When the first attempt fails, the first success of the others is that of all. -/
theorem Succeeds.tail {e : ε} (he : attempt first = .error e)
    (h : Succeeds attempt (first + 1) n k a) : Succeeds attempt first (n + 1) k a where
  le := by have := h.le; omega
  lt := by have := h.lt; omega
  ok := h.ok
  failed j hle hlt b hb := by
    by_cases hj : j = first
    · rw [hj, he] at hb
      cases hb
    · exact h.failed j (by omega) hlt b hb

/-- The converse: after a failure the first success is among the others, for it is not the attempt
that failed. -/
theorem Succeeds.of_tail {e : ε} (he : attempt first = .error e)
    (h : Succeeds attempt first (n + 1) k a) : Succeeds attempt (first + 1) n k a where
  le := by
    have hle := h.le
    have hne : k ≠ first := fun hk => by
      have hok := h.ok
      rw [hk, he] at hok
      cases hok
    omega
  lt := by have := h.lt; omega
  ok := h.ok
  failed j hle hlt := h.failed j (by omega) hlt

/-- When the first attempt succeeds it is the one. A later one has to find all before it failed. -/
theorem Succeeds.of_head {b : α} (hb : attempt first = .ok b)
    (h : Succeeds attempt first n k a) : k = first ∧ a = b := by
  have hk : k = first := by
    by_cases hlt : first < k
    · exact (h.failed first (Nat.le_refl _) hlt b hb).elim
    · have := h.le
      omega
  have hok := h.ok
  rw [hk, hb, Except.ok.injEq] at hok
  exact ⟨hk, hok.symm⟩

/-- **The result is that of the first success.** Induction on the attempts that are left; both
directions go one attempt on where the first one fails. -/
theorem result_eq_some_iff :
    result attempt first n = some a ↔ ∃ k, Succeeds attempt first n k a := by
  -- by the number of attempts that are left; the first one ends it or not
  induction n generalizing first with
  | zero => exact ⟨nofun, fun ⟨k, h⟩ => by have hle := h.le; have hlt := h.lt; omega⟩
  | succ n ih =>
    unfold result
    split
    · next b hb =>
      rw [Option.some.injEq]
      constructor
      · intro hab
        rw [hab] at hb
        exact ⟨first, .head hb⟩
      · exact fun ⟨k, h⟩ => (h.of_head hb).2.symm
    · next e he =>
      rw [ih]
      exact ⟨fun ⟨k, h⟩ => ⟨k, h.tail he⟩, fun ⟨k, h⟩ => ⟨k, h.of_tail he⟩⟩

/-- **No attempt after the first success.** The attempts that are made are those from `first` up to
`k`, so that `k` is the last. -/
theorem made_eq (h : Succeeds attempt first n k a) : first + made attempt first n = k + 1 := by
  -- no attempt is left only where none has succeeded
  induction n generalizing first with
  | zero =>
    have hle := h.le
    have hlt := h.lt
    omega
  | succ n ih =>
    unfold made
    split
    · next b hb => rw [(h.of_head hb).1]
    · next e he =>
      have := ih (h.of_tail he)
      omega

/-- Without a success all attempts are made, and nothing but their number ends the loop. -/
theorem made_of_none (h : result attempt first n = none) : made attempt first n = n := by
  induction n generalizing first with
  | zero => rfl
  | succ n ih =>
    unfold result at h
    unfold made
    split at h
    · cases h
    · next e he => exact congrArg (· + 1) (ih h)

end Retry
