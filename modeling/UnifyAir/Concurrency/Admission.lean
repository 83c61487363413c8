import Mathlib.Data.Set.Insert
import UnifyAir.Concurrency.System

/-!
# Concurrency — check-then-act admission

A shared table records which keys are *occupied*. A task that wants a key first checks that
the key is free, then does some work of its own, and only then enters: the check and the
entry are two steps, and the time between them is the task's *window*. Nothing in the table
shows that a task is in its window, so two tasks can be in the window of one key together.

The protocol is safe exactly as long as nobody enters past somebody else's window. `Step`
is the protocol with that restriction on `enter`, and `Exclusive` is the invariant it has:
occupied keys are never in anybody's window, and a key has at most one task inside. A
program that checks and then acts is shown safe by mapping its states to `State` and its
steps to `Step` or to no change at all.
-/

namespace Concurrency.Admission

/-- Where a task stands: not involved with any key, between its check of `k` and its entry,
or past its entry. -/
inductive Phase (κ : Type) where
  | out
  | window (k : κ)
  | inside (k : κ)

structure State (τ κ : Type) where
  phase : τ → Phase κ
  occupied : Set κ

variable {τ κ : Type} [DecidableEq τ]

/-- No task but `t` is in its window for `k`. -/
def Alone (s : State τ κ) (t : τ) (k : κ) : Prop := ∀ t', t' ≠ t → s.phase t' ≠ .window k

/-- The steps of the protocol. A task leaves a key either for good (`vacate`) or with the
key still marked occupied (`abandon`), as when it dies without cleaning up. -/
inductive Step (s : State τ κ) : State τ κ → Prop where
  | check (t : τ) (k : κ) (hout : s.phase t = .out) (hfree : k ∉ s.occupied) :
      Step s { s with phase := Function.update s.phase t (.window k) }
  | withdraw (t : τ) (k : κ) (hwin : s.phase t = .window k) :
      Step s { s with phase := Function.update s.phase t .out }
  | enter (t : τ) (k : κ) (hwin : s.phase t = .window k) (halone : Alone s t k) :
      Step s ⟨Function.update s.phase t (.inside k), insert k s.occupied⟩
  | abandon (t : τ) (k : κ) (hin : s.phase t = .inside k) :
      Step s { s with phase := Function.update s.phase t .out }
  | vacate (t : τ) (k : κ) (hin : s.phase t = .inside k) :
      Step s ⟨Function.update s.phase t .out, s.occupied \ {k}⟩

/-- What admission guarantees. -/
structure Exclusive (s : State τ κ) : Prop where
  free_of_window : ∀ t k, s.phase t = .window k → k ∉ s.occupied
  occupied_of_inside : ∀ t k, s.phase t = .inside k → k ∈ s.occupied
  inside_unique : ∀ t t' k, s.phase t = .inside k → s.phase t' = .inside k → t = t'

omit [DecidableEq τ] in
/-- Where all tasks are out there is nothing to show: the three clauses all speak of a task in its
window or inside. -/
theorem exclusive_of_out {s : State τ κ} (h : ∀ t, s.phase t = .out) : Exclusive s :=
  ⟨fun t k ht => by simp [h t] at ht, fun t k ht => by simp [h t] at ht,
    fun t t' k ht => by simp [h t] at ht⟩

/-- Moving one task to `out` with the table unchanged loses nothing. All others stand where they
stood, and `out` is in none of the clauses. -/
theorem Exclusive.update_out {s : State τ κ} (h : Exclusive s) (t : τ) :
    Exclusive { s with phase := Function.update s.phase t .out } := by
  have keep : ∀ (t' : τ) (ph : Phase κ), ph ≠ .out →
      Function.update s.phase t .out t' = ph → s.phase t' = ph := by
    intro t' ph hph hup
    rcases update_cases hup with ⟨-, hout⟩ | ⟨-, hsame⟩
    · exact absurd hout.symm hph
    · exact hsame
  exact
    { free_of_window := fun t' k ht' => h.free_of_window t' k (keep t' _ (by nofun) ht')
      occupied_of_inside := fun t' k ht' => h.occupied_of_inside t' k (keep t' _ (by nofun) ht')
      inside_unique := fun t₁ t₂ k h₁ h₂ =>
        h.inside_unique t₁ t₂ k (keep t₁ _ (by nofun) h₁) (keep t₂ _ (by nofun) h₂) }

/-- Entering a key that was free keeps the invariant when nobody else is in its window. The
condition is used for exactly this: another task in its window would be left with a key that is
occupied. -/
theorem Exclusive.enter {s : State τ κ} (h : Exclusive s) {t : τ} {k : κ}
    (hwin : s.phase t = .window k) (halone : Alone s t k) :
    Exclusive ⟨Function.update s.phase t (.inside k), insert k s.occupied⟩ := by
  -- `k` was free while `t` was in its window, so nobody is inside it yet
  have hnone : ∀ t', s.phase t' ≠ .inside k := fun t' hin =>
    h.free_of_window t k hwin (h.occupied_of_inside t' k hin)
  refine ⟨fun t' k' ht' => ?_, fun t' k' ht' => ?_, fun t₁ t₂ k' h₁ h₂ => ?_⟩
  · rcases update_cases ht' with ⟨-, hph⟩ | ⟨hne, hold⟩
    · cases hph
    · rintro (rfl | hocc)
      · exact halone t' hne hold
      · exact h.free_of_window t' k' hold hocc
  · rcases update_cases ht' with ⟨-, hph⟩ | ⟨-, hold⟩
    · cases hph; exact Set.mem_insert _ _
    · exact Set.mem_insert_of_mem _ (h.occupied_of_inside t' k' hold)
  · rcases update_cases h₁ with ⟨rfl, hph₁⟩ | ⟨-, hold₁⟩ <;>
      rcases update_cases h₂ with ⟨rfl, hph₂⟩ | ⟨-, hold₂⟩
    · rfl
    · cases hph₁; exact absurd hold₂ (hnone t₂)
    · cases hph₂; exact absurd hold₁ (hnone t₁)
    · exact h.inside_unique t₁ t₂ k' hold₁ hold₂

/-- **Admission is exclusive.** Every step of the protocol keeps the invariant; that of `enter` is a
lemma of its own, and those that leave a key are all a move to `out`. -/
theorem Exclusive.step {s s' : State τ κ} (h : Exclusive s) (hstep : Step s s') :
    Exclusive s' := by
  cases hstep with
  | check t k hout hfree =>
    refine ⟨fun t' k' ht' => ?_, fun t' k' ht' => ?_, fun t₁ t₂ k' h₁ h₂ => ?_⟩
    · rcases update_cases ht' with ⟨-, hph⟩ | ⟨-, hold⟩
      · cases hph; exact hfree
      · exact h.free_of_window t' k' hold
    · rcases update_cases ht' with ⟨-, hph⟩ | ⟨-, hold⟩
      · cases hph
      · exact h.occupied_of_inside t' k' hold
    · rcases update_cases h₁ with ⟨-, hph⟩ | ⟨-, hold₁⟩
      · cases hph
      · rcases update_cases h₂ with ⟨-, hph⟩ | ⟨-, hold₂⟩
        · cases hph
        · exact h.inside_unique t₁ t₂ k' hold₁ hold₂
  | withdraw t k _ => exact h.update_out t
  | abandon t k _ => exact h.update_out t
  | enter t k hwin halone => exact h.enter hwin halone
  | vacate t k hin =>
    have hout := h.update_out t
    refine ⟨fun t' k' ht' hocc => hout.free_of_window t' k' ht' hocc.1, fun t' k' ht' => ?_,
      hout.inside_unique⟩
    refine ⟨hout.occupied_of_inside t' k' ht', fun hk => ?_⟩
    -- a second task inside the vacated key would have been the same task
    rw [Set.mem_singleton_iff] at hk
    subst hk
    rcases update_cases ht' with ⟨-, hph⟩ | ⟨hne, hold⟩
    · cases hph
    · exact hne (h.inside_unique t' t k' hold hin)

end Concurrency.Admission
