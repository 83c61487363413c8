import Mathlib.Algebra.BigOperators.Group.Finset.Piecewise
import Mathlib.Tactic.Push
import UnifyAir.Concurrency.System

/-!
# Concurrency — how many steps a run has

Whether all tasks come to an end is two questions: whether they can go on for ever, and whether they
can be stuck before the end. For the first, a task is given so many steps when it begins, and uses
them up; the steps of a run are counted against what its tasks were given.

* **`total_update`** — what the tasks have left, when one of them moves.
* **`RunUnder.count_le`** — the steps of a run.
* **`RunUnder.exists_stuck`** — a run with a bound on its steps comes to where nothing can move.
* **`RunUnder.exists_end`** — the same for tasks that have so many steps each.
-/

namespace Concurrency

/-! ## What is left

Each task of a finite set has so many steps left, and a move changes what one of them has. The sums
are compared by this difference alone. -/

section Total

variable {τ β : Type} [DecidableEq τ] (T : Finset τ) (rank : β → Nat)

/-- What the tasks of a set have left. -/
def total (table : τ → β) : Nat := ∑ t ∈ T, rank (table t)

variable {T} (table : τ → β) {t : τ} (x : β)

/-- A task of the set moves: in sum it is as if what it had left were given back and what it has
left now were taken. Without subtraction, so that `omega` can go on with it. -/
theorem total_update (ht : t ∈ T) :
    total T rank (Function.update table t x) + rank (table t) = total T rank table + rank x := by
  have hcomp (y : β) : total T rank (Function.update table t y) =
      rank y + ∑ t' ∈ T \ {t}, rank (table t') := by
    unfold total
    rw [← Finset.sum_update_of_mem ht]
    refine Finset.sum_congr rfl fun t' _ => ?_
    rw [Function.update_apply, Function.update_apply, apply_ite rank]
  have hself := hcomp (table t)
  rw [Function.update_eq_self] at hself
  rw [hcomp x, hself]
  omega

/-- A move of any task adds no more to the sum than what that task has left afterwards, whether it
belongs to the set or not. -/
theorem total_update_le :
    total T rank (Function.update table t x) ≤ total T rank table + rank x := by
  by_cases ht : t ∈ T
  · have hmoved := total_update rank table x ht
    omega
  · refine Nat.le_add_right_of_le (Finset.sum_congr rfl fun t' ht' => ?_).le
    rw [Function.update_of_ne]
    rintro rfl
    exact ht ht'

end Total

/-- A task that begins joins the set with what it has left at its beginning. -/
theorem total_range_succ {β : Type} (rank : β → Nat) (table : Nat → β) (n : Nat) (x : β) :
    total (Finset.range (n + 1)) rank (Function.update table n x) =
      total (Finset.range n) rank table + rank x := by
  unfold total
  rw [Finset.sum_range_succ, Function.update_self]
  refine congrArg (· + rank x) (Finset.sum_congr rfl fun m hm => ?_)
  rw [Function.update_of_ne (Nat.ne_of_lt (Finset.mem_range.mp hm))]

/-! ## What is spent

The steps that have been made and those that are left are paid for by what the tasks were given. -/

namespace System

variable {σ α : Type} {sys : System σ α}

/-- **The steps of a run.** Each of the steps that are counted uses up one of what is left, or is
paid for. What the environment may do at any time, such as a new call, is not counted and pays for
its own steps instead. -/
theorem RunUnder.count_le {C : σ → α → Prop} {counted : α → Bool} (left paid : List α → σ → Nat)
    (hinit : left [] sys.init ≤ paid [] sys.init)
    (hstep : ∀ as s a s', sys.RunUnder C as s → C s a → sys.step s a = some s' →
      (counted a).toNat + left (as ++ [a]) s' + paid as s ≤ left as s + paid (as ++ [a]) s')
    {as : List α} {s : σ} (h : sys.RunUnder C as s) :
    as.countP counted + left as s ≤ paid as s := by
  induction h with
  | nil => exact (Nat.zero_add _).trans_le hinit
  | @snoc as s s' a run cond hs ih =>
    have hnext := hstep as s a s' run cond hs
    rw [List.countP_append, List.countP_singleton]
    cases hcounted : counted a with
    | true =>
      rw [hcounted] at hnext
      simp only [Bool.toNat_true, if_true] at hnext ⊢
      omega
    | false =>
      rw [hcounted] at hnext
      simp only [Bool.toNat_false, Bool.false_eq_true, if_false] at hnext ⊢
      omega

/-! ## Where runs end

A system whose tasks can be stuck half-way would end too. So both of the rules below say where a run
comes to; that nothing is left undone there is for each system to show. -/

/-- **A run that cannot go on for ever** can be continued until nothing of what is allowed can be
done. Induction on how many steps there still may be, under the bound. -/
theorem RunUnder.exists_stuck {C : σ → α → Prop} {as : List α} {s : σ} (h : sys.RunUnder C as s)
    (allowed : α → Prop) (bound : Nat)
    (hbound : ∀ bs s', sys.RunUnder C (as ++ bs) s' → (∀ a ∈ bs, allowed a) → bs.length ≤ bound) :
    ∃ bs s', sys.RunUnder C (as ++ bs) s' ∧ (∀ a ∈ bs, allowed a) ∧
      ∀ a, allowed a → C s' a → sys.step s' a = none := by
  -- a continuation of `n` steps is stuck, or there is a longer one
  suffices hend : ∀ n bs s', bs.length + n = bound → sys.RunUnder C (as ++ bs) s' →
      (∀ a ∈ bs, allowed a) → ∃ bs s', sys.RunUnder C (as ++ bs) s' ∧ (∀ a ∈ bs, allowed a) ∧
        ∀ a, allowed a → C s' a → sys.step s' a = none by
    refine hend bound [] s (Nat.zero_add _) ?_ nofun
    rw [List.append_nil]
    exact h
  intro n
  induction n with
  | zero =>
    intro bs s' hlen run hallowed
    refine ⟨bs, s', run, hallowed, fun a ha hcond => ?_⟩
    by_contra hstep
    obtain ⟨t, ht⟩ := Option.ne_none_iff_exists'.mp hstep
    have hlonger := hbound (bs ++ [a]) t
      (by rw [← List.append_assoc]; exact .snoc run hcond ht)
      fun b hb => (List.mem_append.mp hb).elim (hallowed b) fun hb => List.mem_singleton.mp hb ▸ ha
    rw [List.length_append, List.length_singleton] at hlonger
    omega
  | succ n ih =>
    intro bs s' hlen run hallowed
    by_cases hstuck : ∀ a, allowed a → C s' a → sys.step s' a = none
    · exact ⟨bs, s', run, hallowed, hstuck⟩
    · push Not at hstuck
      obtain ⟨a, ha, hcond, hstep⟩ := hstuck
      obtain ⟨t, ht⟩ := Option.ne_none_iff_exists'.mp hstep
      refine ih (bs ++ [a]) t ?_ ?_ fun b hb =>
        (List.mem_append.mp hb).elim (hallowed b) fun hb => List.mem_singleton.mp hb ▸ ha
      · rw [List.length_append, List.length_singleton]
        omega
      · rw [← List.append_assoc]
        exact .snoc run hcond ht

/-- **A run whose tasks have so many steps each** can be brought to its end without a new task. The
bound is the one on the steps of all runs, since none of the steps that are allowed begins a task.
-/
theorem RunUnder.exists_end {C : σ → α → Prop} {as : List α} {s : σ} (h : sys.RunUnder C as s)
    (allowed : α → Prop) (begins moves : α → Bool) (each : Nat)
    (hallowed : ∀ a, allowed a → moves a = true ∧ begins a = false)
    (hcount : ∀ as s, sys.RunUnder C as s → as.countP moves ≤ each * as.countP begins) :
    ∃ bs s', sys.RunUnder C (as ++ bs) s' ∧ (∀ a ∈ bs, allowed a) ∧
      (as ++ bs).countP moves ≤ each * as.countP begins ∧
      ∀ a, allowed a → C s' a → sys.step s' a = none := by
  have hsteps : ∀ bs s', sys.RunUnder C (as ++ bs) s' → (∀ a ∈ bs, allowed a) →
      (as ++ bs).countP moves ≤ each * as.countP begins := by
    intro bs s' run hbs
    have hnone : bs.countP begins = 0 := by
      rw [List.countP_eq_zero]
      intro a ha
      rw [(hallowed a (hbs a ha)).2]
      exact Bool.false_ne_true
    have hle := hcount _ _ run
    rwa [List.countP_append (p := begins), hnone] at hle
  obtain ⟨bs, s', run, hbs, hstuck⟩ := h.exists_stuck allowed (each * as.countP begins)
    fun bs s' run hbs => by
      have hlen := hsteps bs s' run hbs
      have hmoves : bs.countP moves = bs.length :=
        List.countP_eq_length.mpr fun a ha => (hallowed a (hbs a ha)).1
      rw [List.countP_append, hmoves] at hlen
      omega
  exact ⟨bs, s', run, hbs, hsteps bs s' run hbs, hstuck⟩

end System

end Concurrency
