import Mathlib.Algebra.Group.Basic
import Mathlib.Data.List.Basic
import Mathlib.Logic.Function.Basic

/-!
# Store — a table of machines

A table has a machine under each key. An event is for the machine of its key: it changes the state
of that machine alone, and gives an answer.

* **`Machines.run_at`** — under a key is what that machine makes of its own events.
* **`Machines.answers_at`** — its answers are those it gives alone.
* **`Machines.total_answers`** — what its answers add up to.
-/

namespace Store

/-- Machines with states `σ`, one under each key: a step gives an answer and the next state. -/
structure Machines (κ α σ β : Type) where
  key : α → κ
  step : σ → α → β × σ

namespace Machines

variable {κ α σ β : Type} (m : Machines κ α σ β)

/-! ## One machine

A machine by itself, with no table around it: the state after some events, and the answers given on
the way. -/

/-- The state after some events, one after the other. -/
def runAlone (s : σ) (as : List α) : σ := as.foldl (fun s a => (m.step s a).2) s

/-- Each event with its answer. -/
def answersAlone (s : σ) : List α → List (α × β)
  | [] => []
  | a :: as => (a, (m.step s a).1) :: answersAlone (m.step s a).2 as

/-- A machine that does what another does, seen through a relation of their states. Induction on the
events; nothing is asked of the answers. -/
theorem runAlone_simulates {τ γ : Type} (m' : Machines κ α τ γ) {R : σ → τ → Prop}
    (hstep : ∀ s t a, R s t → R (m.step s a).2 (m'.step t a).2) {s : σ} {t : τ} (hst : R s t)
    (as : List α) : R (m.runAlone s as) (m'.runAlone t as) := by
  induction as generalizing s t with
  | nil => exact hst
  | cons a as ih => exact ih (hstep s t a hst)

/-- **What answers add up to.** If an answer has what the state gains, the answers of a run have
what the last state has more than the first. `P` is an invariant under which the gain is known. -/
theorem total_answers {M : Type} [AddMonoid M] {P : σ → Prop} (amount : σ → M) (gain : β → M)
    (hkeep : ∀ s a, P s → P (m.step s a).2)
    (hgain : ∀ s a, P s → amount (m.step s a).2 = amount s + gain (m.step s a).1) {s : σ}
    (hs : P s) (as : List α) :
    amount (m.runAlone s as) = amount s + ((m.answersAlone s as).map fun e => gain e.2).sum := by
  induction as generalizing s with
  | nil => exact (add_zero _).symm
  | cons a as ih =>
    show amount (m.runAlone (m.step s a).2 as) =
      amount s + (((a, (m.step s a).1) :: m.answersAlone (m.step s a).2 as).map _).sum
    rw [ih (hkeep s a hs), hgain s a hs, List.map_cons, List.sum_cons, add_assoc]

/-! ## The table

An event is looked up by its key. Since it changes the state under that key alone, the table comes
apart into its machines. -/

variable [DecidableEq κ]

/-- An event, for the machine of its key. -/
def apply (table : κ → σ) (a : α) : β × (κ → σ) :=
  ((m.step (table (m.key a)) a).1,
    Function.update table (m.key a) (m.step (table (m.key a)) a).2)

/-- The table after some events. -/
def run (table : κ → σ) (as : List α) : κ → σ := as.foldl (fun t a => (m.apply t a).2) table

/-- The events with their answers, for whatever machine each was. -/
def answers (table : κ → σ) : List α → List (α × β)
  | [] => []
  | a :: as => (a, (m.apply table a).1) :: answers (m.apply table a).2 as

/-- The events for the machine of a key. -/
def eventsOf (k : κ) (as : List α) : List α := as.filter fun a => m.key a = k

/-- An event for the machine of its key is one of its events. -/
theorem eventsOf_cons_self (a : α) (as : List α) :
    m.eventsOf (m.key a) (a :: as) = a :: m.eventsOf (m.key a) as :=
  List.filter_cons_of_pos (decide_eq_true rfl)

theorem eventsOf_cons_of_ne {k : κ} {a : α} (h : m.key a ≠ k) (as : List α) :
    m.eventsOf k (a :: as) = m.eventsOf k as :=
  List.filter_cons_of_neg (by simpa using h)

/-- **A machine alone.** What is under a key is what its own events make of it: events for others
change nothing there. Induction on the events. -/
theorem run_at (table : κ → σ) (k : κ) (as : List α) :
    m.run table as k = m.runAlone (table k) (m.eventsOf k as) := by
  induction as generalizing table with
  | nil => rfl
  | cons a as ih =>
    show m.run (m.apply table a).2 as k = _
    rw [ih]
    -- the event is for this machine, or for another
    by_cases hk : m.key a = k
    · subst hk
      rw [eventsOf_cons_self]
      show m.runAlone (Function.update table (m.key a) _ (m.key a)) _ = _
      rw [Function.update_self]
      rfl
    · rw [m.eventsOf_cons_of_ne hk]
      show m.runAlone (Function.update table (m.key a) _ k) _ = _
      rw [Function.update_of_ne (Ne.symm hk)]

/-- **Its answers**, too: those to its own events are what the machine would have answered with no
others beside it, and they come in the same order. -/
theorem answers_at (table : κ → σ) (k : κ) (as : List α) :
    (m.answers table as).filter (fun e => m.key e.1 = k) =
      m.answersAlone (table k) (m.eventsOf k as) := by
  induction as generalizing table with
  | nil => rfl
  | cons a as ih =>
    show List.filter _ ((a, (m.apply table a).1) :: m.answers (m.apply table a).2 as) = _
    by_cases hk : m.key a = k
    · subst hk
      rw [List.filter_cons_of_pos (by simp), ih, eventsOf_cons_self]
      show _ :: m.answersAlone (Function.update table (m.key a) _ (m.key a)) _ = _
      rw [Function.update_self]
      rfl
    · rw [List.filter_cons_of_neg (by simpa using hk), ih, m.eventsOf_cons_of_ne hk]
      show m.answersAlone (Function.update table (m.key a) _ k) _ = _
      rw [Function.update_of_ne (Ne.symm hk)]

/-- Taking the events of a machine twice takes the same ones. -/
theorem eventsOf_eventsOf (k : κ) (as : List α) :
    m.eventsOf k (m.eventsOf k as) = m.eventsOf k as := by
  unfold eventsOf
  rw [List.filter_filter]
  congr 1
  funext a
  rw [Bool.and_self]

/-- Every event is answered, in order, so that what was asked can be read off the answers. -/
theorem map_fst_answers (table : κ → σ) (as : List α) :
    (m.answers table as).map Prod.fst = as := by
  induction as generalizing table with
  | nil => rfl
  | cons a as ih =>
    show a :: (m.answers (m.apply table a).2 as).map Prod.fst = _
    rw [ih]

/-- With no events but its own, there are no other answers. -/
theorem answers_eventsOf (table : κ → σ) (k : κ) (as : List α) :
    m.answers table (m.eventsOf k as) = m.answersAlone (table k) (m.eventsOf k as) := by
  rw [← m.eventsOf_eventsOf k as, ← answers_at, m.eventsOf_eventsOf k as]
  refine (List.filter_eq_self.mpr fun e he => ?_).symm
  have hmem : e.1 ∈ m.eventsOf k as := by
    rw [← m.map_fst_answers table (m.eventsOf k as)]
    exact List.mem_map_of_mem he
  exact (List.mem_filter.mp hmem).2

end Machines

end Store
