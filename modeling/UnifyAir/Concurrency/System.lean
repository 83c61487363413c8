import Mathlib.Data.List.Infix
import Mathlib.Logic.Function.Basic

/-!
# Concurrency — transition systems and their runs

A concurrent program is modelled as a *guarded, executable* step function: `step s a` is
`some s'` when action `a` is enabled in state `s`. An action names the task that moves and
whatever the environment decides at that step, so a list of actions is one schedule of the
program and a claim about "every interleaving" is a claim about every list of actions.

* **`exec`** replays a schedule; a concrete trace is checked by evaluation.
* **`Run`** is the same thing as a relation, built one step at a time at the end of the
  schedule, which is the shape every invariant proof inducts over.
* **`RunUnder C`** restricts to the runs whose steps all meet a condition `C` on the state
  before the step and the action: the runs in which a race is not lost.
* **`noted`** is what an observer of every step has written down at the end of a schedule.
-/

namespace Concurrency

/-- Reading a table after one entry was written: either it is that entry, or an entry that
was there before. -/
theorem update_cases {τ β : Type} [DecidableEq τ] {f : τ → β} {t t' : τ} {x y : β}
    (h : Function.update f t x t' = y) : (t' = t ∧ x = y) ∨ (t' ≠ t ∧ f t' = y) := by
  by_cases ht : t' = t
  · subst ht; exact Or.inl ⟨rfl, by rwa [Function.update_self] at h⟩
  · exact Or.inr ⟨ht, by rwa [Function.update_of_ne ht] at h⟩

section Tables

variable {τ β γ : Type} [DecidableEq τ] {f : τ → β} {t : τ} {x : β}

/-- When the entry that was written has `P` only if the old one had, every entry does. -/
theorem of_update (P : β → Prop) (hx : P x → P (f t)) {t' : τ}
    (h : P (Function.update f t x t')) : P (f t') := by
  rcases update_cases (rfl : Function.update f t x t' = _) with ⟨rfl, hnew⟩ | ⟨-, hold⟩
  · rw [← hnew] at h; exact hx h
  · rwa [hold]

/-- When the entry that was written keeps `P`, every entry does. -/
theorem to_update (P : β → Prop) (hx : P (f t) → P x) {t' : τ} (h : P (f t')) :
    P (Function.update f t x t') := by
  rcases update_cases (rfl : Function.update f t x t' = _) with ⟨rfl, hnew⟩ | ⟨-, hold⟩
  · rw [← hnew]; exact hx h
  · rwa [← hold]

/-- A view of the entries that the write does not change. -/
theorem update_view (g : β → γ) (hx : g x = g (f t)) (t' : τ) :
    g (Function.update f t x t') = g (f t') :=
  to_update (fun y => g y = g (f t')) (fun h => hx.trans h) rfl

end Tables

/-- A transition system: an initial state and a guarded step function. -/
structure System (σ α : Type) where
  init : σ
  step : σ → α → Option σ

namespace System

variable {σ α : Type} (sys : System σ α)

/-- Replay a schedule from the initial state; `none` if some action along the way is not
enabled. -/
def exec (as : List α) : Option σ := as.foldlM sys.step sys.init

/-- `RunUnder sys C as s`: the schedule `as` leads from the initial state to `s`, and every
step of it meets the condition `C` in the state it is taken from. -/
inductive RunUnder (C : σ → α → Prop) : List α → σ → Prop where
  | nil : RunUnder C [] sys.init
  | snoc {as : List α} {s s' : σ} {a : α} (run : RunUnder C as s) (cond : C s a)
      (hstep : sys.step s a = some s') : RunUnder C (as ++ [a]) s'

/-- The schedule `as` leads from the initial state to `s`. -/
abbrev Run : List α → σ → Prop := sys.RunUnder fun _ _ => True

variable {sys}

/-! ## Replay and runs are the same thing

A schedule is replayed to check a concrete trace by evaluation, and a run is what proofs induct
over. Both say the same: `exec_eq` and `run_of_exec` are the two directions. -/

/-- Replay from the other end: the last action of a schedule is taken in the state that the schedule
before it leads to. This is the bridge from the left fold of `exec` to the snoc shape of a run. -/
theorem exec_snoc (as : List α) (a : α) :
    sys.exec (as ++ [a]) = (sys.exec as).bind (sys.step · a) := by
  simp [exec, List.foldlM_append]

/-- A run is what replaying its schedule gives, whatever its condition was: the condition only says
which runs are looked at and never where they lead. -/
theorem RunUnder.exec_eq {C : σ → α → Prop} {as : List α} {s : σ} (h : sys.RunUnder C as s) :
    sys.exec as = some s := by
  induction h with
  | nil => rfl
  | snoc _ _ hstep ih => rw [exec_snoc, ih]; exact hstep

/-- A schedule that can be replayed is a run. Induction on the schedule from its end, because that
is where a run grows. -/
theorem run_of_exec {as : List α} {s : σ} (h : sys.exec as = some s) : sys.Run as s := by
  induction as using List.reverseRecOn generalizing s with
  | nil => cases h; exact .nil
  | append_singleton as a ih =>
    rw [exec_snoc] at h
    obtain ⟨t, ht, hstep⟩ := Option.bind_eq_some_iff.mp h
    exact .snoc (ih ht) trivial hstep

/-- A schedule leads to one state only, under whatever conditions it is looked at. So a fact proved
along one reading of a schedule can be carried over to another. -/
theorem RunUnder.eq {C D : σ → α → Prop} {as : List α} {s s' : σ} (h : sys.RunUnder C as s)
    (h' : sys.RunUnder D as s') : s = s' :=
  Option.some.inj (h.exec_eq.symm.trans h'.exec_eq)

/-- The system with a test in front of every step. -/
def guarded (sys : System σ α) (c : σ → α → Bool) : System σ α where
  init := sys.init
  step s a := if c s a then sys.step s a else none

/-- A schedule replayed with a test for `C` in front of every step is a run under `C`. With it the
runs that a witness speaks of are found by evaluation, though `C` itself need not be decidable. -/
theorem RunUnder.of_guarded {C : σ → α → Prop} {c : σ → α → Bool}
    (hc : ∀ s a, c s a = true → C s a) {as : List α} {s : σ}
    (h : (sys.guarded c).exec as = some s) : sys.RunUnder C as s := by
  have hrun := run_of_exec h
  induction hrun with
  | nil => exact .nil
  | @snoc as s s' a run _ hstep ih =>
    simp only [guarded] at hstep
    split at hstep
    · next hca => exact .snoc (ih run.exec_eq) (hc s a hca) hstep
    · cases hstep

theorem RunUnder.of_decide {C : σ → α → Prop} [∀ s a, Decidable (C s a)] {as : List α} {s : σ}
    (h : (sys.guarded fun s a => decide (C s a)).exec as = some s) : sys.RunUnder C as s :=
  .of_guarded (fun _ _ => of_decide_eq_true) h

/-! ## Weakening and splitting runs

A run under a condition is a run under a weaker one; it has a prefix for every prefix of its
schedule, and a last step unless its schedule is empty. -/

/-- A run meets every condition that its own condition implies, since each single step does. -/
theorem RunUnder.mono {C D : σ → α → Prop} (hCD : ∀ s a, C s a → D s a) {as : List α} {s : σ}
    (h : sys.RunUnder C as s) : sys.RunUnder D as s := by
  induction h with
  | nil => exact .nil
  | snoc _ cond hstep ih => exact .snoc ih (hCD _ _ cond) hstep

/-- A run under a condition is a run. Most lemmas about all runs are applied to the runs under a
condition in this way. -/
theorem RunUnder.run {C : σ → α → Prop} {as : List α} {s : σ} (h : sys.RunUnder C as s) :
    sys.Run as s := h.mono fun _ _ _ => trivial

/-- A condition on the actions alone holds along a run when it holds of its schedule. -/
theorem RunUnder.of_mem {C : σ → α → Prop} {as : List α} {s : σ} (h : sys.Run as s)
    (hC : ∀ t, ∀ a ∈ as, C t a) : sys.RunUnder C as s := by
  induction h with
  | nil => exact .nil
  | snoc _ _ hstep ih =>
    exact .snoc (ih fun t a ha => hC t a (List.mem_append_left _ ha)) (hC _ _ (by simp)) hstep

/-- The converse for a condition that says something of the action alone: what each step has met is
then a property of every action of the schedule. -/
theorem RunUnder.mem {C : σ → α → Prop} {Q : α → Prop} (hCQ : ∀ t a, C t a → Q a) {as : List α}
    {s : σ} (h : sys.RunUnder C as s) : ∀ a ∈ as, Q a := by
  induction h with
  | nil => simp
  | snoc _ cond _ ih =>
    intro a ha
    rcases List.mem_append.mp ha with ha | ha
    · exact ih a ha
    · rw [List.mem_singleton] at ha; subst ha; exact hCQ _ _ cond

/-- A run of a longer schedule passes through a state of every shorter one. Induction on what is cut
off, from its end, one step of the run at a time. -/
theorem RunUnder.split {C : σ → α → Prop} {as bs : List α} {s : σ}
    (h : sys.RunUnder C (as ++ bs) s) : ∃ t, sys.RunUnder C as t := by
  -- from the end, as runs are made
  induction bs using List.reverseRecOn generalizing s with
  | nil => exact ⟨s, by simpa using h⟩
  | append_singleton bs b ih =>
    rw [← List.append_assoc] at h
    generalize hcs : as ++ bs ++ [b] = cs at h
    cases h with
    | nil => simp at hcs
    | snoc run _ _ =>
      obtain ⟨hinit, -⟩ := List.append_inj' hcs rfl
      exact ih (hinit ▸ run)

/-- The last step of a run: the state before it was reached by the run so far, and the step met the
condition there. -/
theorem RunUnder.unsnoc {C : σ → α → Prop} {as : List α} {a : α} {s' : σ}
    (h : sys.RunUnder C (as ++ [a]) s') :
    ∃ s, sys.RunUnder C as s ∧ C s a ∧ sys.step s a = some s' := by
  generalize hcs : as ++ [a] = cs at h
  cases h with
  | nil => simp at hcs
  | snoc run cond hstep =>
    obtain ⟨rfl, hlast⟩ := List.append_inj' hcs rfl
    cases hlast
    exact ⟨_, run, cond, hstep⟩

/-! ## Invariants

Everything that is proved of all interleavings goes through one of these two rules; a module about a
program supplies the initial state and what one step does. -/

/-- A property of states that holds initially and is kept by every step that meets the
condition holds wherever such steps lead. `P` may assume of the state before the step that
it was reached by a run, so invariants can be stacked. -/
theorem RunUnder.invariant {C : σ → α → Prop} {P : σ → Prop} (hinit : P sys.init)
    (hstep : ∀ as s a s', sys.RunUnder C as s → P s → C s a → sys.step s a = some s' → P s')
    {as : List α} {s : σ} (h : sys.RunUnder C as s) : P s := by
  induction h with
  | nil => exact hinit
  | snoc run cond hs ih => exact hstep _ _ _ _ run ih cond hs

/-- The invariant rule for properties that relate the state to the schedule that led to it, such as
"the entry was made by a call of the schedule". -/
theorem RunUnder.history {C : σ → α → Prop} {P : List α → σ → Prop} (hinit : P [] sys.init)
    (hstep : ∀ as s a s', sys.RunUnder C as s → P as s → C s a → sys.step s a = some s' →
      P (as ++ [a]) s')
    {as : List α} {s : σ} (h : sys.RunUnder C as s) : P as s := by
  induction h with
  | nil => exact hinit
  | snoc run cond hs ih => exact hstep _ _ _ _ run ih cond hs

/-- What every step keeps still holds at the end of a longer schedule. The shorter run is a prefix
of the longer one, so that both can be compared step by step behind it. -/
theorem RunUnder.persists {C D : σ → α → Prop} {Q : σ → Prop}
    (hkeep : ∀ s a s', sys.step s a = some s' → Q s → Q s') {as bs : List α} {s s' : σ}
    (h : sys.RunUnder C as s) (h' : sys.RunUnder D (as ++ bs) s') (hQ : Q s) : Q s' := by
  -- what holds at the end of the first part is carried over the second
  induction bs using List.reverseRecOn generalizing s' with
  | nil =>
    rw [List.append_nil] at h'
    rw [← h.eq h']
    exact hQ
  | append_singleton bs b ih =>
    rw [← List.append_assoc] at h'
    obtain ⟨t, ht, -, hstep⟩ := h'.unsnoc
    exact hkeep t b s' hstep (ih ht)

/-- If a step leaves alone what it shows of every task but the one its action names, then a
task no action of a schedule names is shown as it was initially. -/
theorem RunUnder.untouched {C : σ → α → Prop} {τ β : Type} {task : α → τ} {view : σ → τ → β}
    (hframe : ∀ s a s' t, sys.step s a = some s' → t ≠ task a → view s' t = view s t)
    {as : List α} {s : σ} (h : sys.RunUnder C as s) {t : τ} (ht : ∀ a ∈ as, task a ≠ t) :
    view s t = view sys.init t := by
  induction h with
  | nil => rfl
  | snoc _ _ hstep ih =>
    -- the task was not named by this action either
    rw [hframe _ _ _ t hstep (ht _ (by simp)).symm]
    exact ih fun a ha => ht a (List.mem_append_left _ ha)

/-- A schedule of a few tasks, replayed with a test in front of every step that looks at these tasks
alone: all the others are as they were initially, so that the test may take this for granted. -/
theorem RunUnder.of_guarded_tasks {C : σ → α → Prop} {c : σ → α → Bool} {τ β : Type} {task : α → τ}
    {view : σ → τ → β} (ts : List τ)
    (hframe : ∀ s a s' t, sys.step s a = some s' → t ≠ task a → view s' t = view s t)
    (hc : ∀ s a, (∀ t, t ∉ ts → view s t = view sys.init t) → c s a = true → C s a)
    {as : List α} {s : σ} (hts : ∀ a ∈ as, task a ∈ ts) (h : (sys.guarded c).exec as = some s) :
    sys.RunUnder C as s := by
  have hrun := run_of_exec h
  clear h
  -- the states of other tasks are those of the beginning, so the test may look at them
  induction hrun with
  | nil => exact .nil
  | @snoc as s s' a _ _ hstep ih =>
    have hrest := ih fun b hb => hts b (List.mem_append_left _ hb)
    have hothers : ∀ t, t ∉ ts → view s t = view sys.init t := fun t ht =>
      hrest.untouched hframe fun b hb heq => ht (heq ▸ hts b (List.mem_append_left _ hb))
    -- the test was made in the state that the frame rule speaks of
    simp only [guarded] at hstep
    split at hstep
    · next hca => exact .snoc hrest (hc s a hothers hca) hstep
    · cases hstep

/-- **A condition that is exactly what a property needs.** Take the runs whose steps meet `B`.
Suppose steps that also meet `C` lead only to states with `P`, and the first step that does
not meet `C` leads to a state without. Then a run keeps `P` in every state it passes through
if and only if each of its steps meets `C`. `P` may look at the schedule so far. -/
theorem RunUnder.always_iff {B C : σ → α → Prop} {P : List α → σ → Prop}
    (hgood : ∀ as s, sys.RunUnder (fun s a => B s a ∧ C s a) as s → P as s)
    (hbreak : ∀ as s a s', sys.RunUnder (fun s a => B s a ∧ C s a) as s → B s a →
      sys.step s a = some s' → P (as ++ [a]) s' → C s a)
    {as : List α} {s : σ} (h : sys.RunUnder B as s) :
    (∀ pre t, pre <+: as → sys.Run pre t → P pre t) ↔
      sys.RunUnder (fun s a => B s a ∧ C s a) as s := by
  constructor
  · -- the first step that does not meet `C` would lead to a state without `P`
    intro hall
    induction h with
    | nil => exact .nil
    | @snoc as s s' a run cond hs ih =>
      have hP' : P (as ++ [a]) s' := hall _ _ (List.prefix_refl _) (.snoc run.run trivial hs)
      have hunder := ih fun pre t hpre ht => hall pre t (hpre.trans (List.prefix_append _ _)) ht
      exact .snoc hunder ⟨cond, hbreak _ _ _ _ hunder cond hs hP'⟩ hs
  · -- a part of such a run is such a run
    intro hunder pre t hpre ht
    obtain ⟨rest, rfl⟩ := hpre
    obtain ⟨t', ht'⟩ := hunder.split
    obtain rfl := ht'.eq ht
    exact hgood pre t' ht'

/-- The same among all runs, where nothing is assumed of a step besides the condition that is to be
found exact. -/
theorem Run.always_iff {C : σ → α → Prop} {P : List α → σ → Prop}
    (hgood : ∀ as s, sys.RunUnder C as s → P as s)
    (hbreak : ∀ as s a s', sys.RunUnder C as s → sys.step s a = some s' → P (as ++ [a]) s' → C s a)
    {as : List α} {s : σ} (h : sys.Run as s) :
    (∀ pre t, pre <+: as → sys.Run pre t → P pre t) ↔ sys.RunUnder C as s := by
  have hrun : ∀ {as s}, sys.RunUnder (fun s a => True ∧ C s a) as s → sys.RunUnder C as s :=
    fun hunder => hunder.mono fun _ _ hcond => hcond.2
  rw [RunUnder.always_iff (C := C) (fun as s hunder => hgood as s (hrun hunder))
    (fun as s a s' hunder _ => hbreak as s a s' (hrun hunder)) h]
  exact ⟨hrun, fun hunder => hunder.mono fun _ _ hcond => ⟨trivial, hcond⟩⟩

/-- The same for an invariant: `P` holds initially, a step that meets `C` keeps it, and a step
that does not meet `C` breaks it. -/
theorem runUnder_iff_always {C : σ → α → Prop} {P : σ → Prop} (hinit : P sys.init)
    (hkeep : ∀ as s a s', sys.Run as s → P s → C s a → sys.step s a = some s' → P s')
    (hbreak : ∀ as s a s', sys.Run as s → P s → sys.step s a = some s' → P s' → C s a)
    {as : List α} {s : σ} (h : sys.Run as s) :
    (∀ pre t, pre <+: as → sys.Run pre t → P t) ↔ sys.RunUnder C as s := by
  have hP : ∀ as s, sys.RunUnder C as s → P s := fun as s run =>
    run.invariant hinit fun as s a s' run hP cond hs => hkeep as s a s' run.run hP cond hs
  exact Run.always_iff (P := fun _ => P) hP
    (fun as s a s' run hs hP' => hbreak as s a s' run.run (hP as s run) hs hP') h

/-! ## Notes along a run

What a run has shown of its environment is in its schedule and in the states it passed through. An
observer that is told of every step, with the state that it is taken from, can write it down; its
notes can be computed by replaying the schedule. -/

variable (sys) in
/-- The notes of an observer that watches a schedule from `s` on and has noted `n` before. The
schedule is watched as far as it is enabled. -/
def notedFrom {η : Type} (note : η → σ → α → η) : σ → η → List α → η
  | _, n, [] => n
  | s, n, a :: as => match sys.step s a with
    | none => n
    | some s' => notedFrom note s' (note n s a) as

variable (sys) in
/-- The notes of an observer that has watched a schedule from the initial state on. -/
def noted {η : Type} (note : η → σ → α → η) (n : η) (as : List α) : η :=
  sys.notedFrom note sys.init n as

/-- Watching a schedule and then one more action: the notes of the schedule, and then what the last
action adds in the state that the schedule leads to. Induction on the schedule, from any state. -/
theorem notedFrom_snoc {η : Type} {note : η → σ → α → η} {n : η} {as : List α} {a : α}
    {s₀ s s' : σ} (hexec : as.foldlM sys.step s₀ = some s) (hstep : sys.step s a = some s') :
    sys.notedFrom note s₀ n (as ++ [a]) = note (sys.notedFrom note s₀ n as) s a := by
  -- from the first action on, as `notedFrom` counts
  induction as generalizing s₀ n with
  | nil =>
    cases hexec
    simp [notedFrom, hstep]
  | cons b as ih =>
    rw [List.foldlM_cons] at hexec
    obtain ⟨t, ht, hexec⟩ := Option.bind_eq_some_iff.mp hexec
    simp only [List.cons_append, notedFrom, ht]
    exact ih hexec

/-- Each step of a run adds its own note. This is all that is used of the notes in a proof, which
inducts over the run and never looks at how the schedule is replayed. -/
theorem RunUnder.noted_snoc {η : Type} {C : σ → α → Prop} {note : η → σ → α → η} {n : η}
    {as : List α} {a : α} {s s' : σ} (h : sys.RunUnder C as s) (hstep : sys.step s a = some s') :
    sys.noted note n (as ++ [a]) = note (sys.noted note n as) s a :=
  notedFrom_snoc h.exec_eq hstep

end System

end Concurrency
