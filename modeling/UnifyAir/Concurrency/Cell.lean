import Mathlib.Data.List.Perm.Basic
import UnifyAir.Concurrency.System

/-!
# Concurrency — a shared cell that tasks read and write back

A task reads the cell, works out a new value from what it read, and stores that: two atomic
steps, with those of other tasks in between. A store is *fresh* when nobody has stored since
the task's read, else it overwrites the stores it has not seen.

* **`serial_of_fresh`** — when all stores are fresh, the cell holds what the tasks make of the
  initial value one after another.
* **`not_serial_of_stale`** — when some store is not, there are updates for which it does not:
  updates that each make the value bigger by one.
* **`serial_iff_fresh`** — so a schedule is serial for all updates exactly when all its stores
  are fresh.
-/

namespace Concurrency.Cell

/-- Where a task stands. A task that has read holds what it read, and the number of stores
there had been. -/
inductive Phase (σ : Type) where
  | idle
  | holding (read : σ) (since : Nat)
  | done

structure State (τ σ : Type) where
  value : σ
  -- the tasks that have stored, in order
  stores : List τ
  phase : τ → Phase σ

inductive Act (τ : Type) where
  | read (t : τ)
  | store (t : τ)
  deriving DecidableEq

variable {τ σ : Type}

/-- A phase without the value in it. -/
def Phase.shape : Phase σ → Phase Unit
  | .idle => .idle
  | .holding _ since => .holding () since
  | .done => .done

/-- The number of stores before the read of a task that has not stored. -/
def Phase.since : Phase σ → Option Nat
  | .holding _ since => some since
  | _ => none

/-- The shape tells how many stores there had been when the task read. -/
theorem since_of_shape {σ' : Type} {p : Phase σ} {p' : Phase σ'} (h : p.shape = p'.shape) :
    p.since = p'.since := by
  cases p <;> cases p' <;> cases h <;> rfl

theorem idle_of_shape {σ' : Type} {p : Phase σ} {p' : Phase σ'} (h : p.shape = p'.shape) :
    p = .idle ↔ p' = .idle := by
  cases p <;> cases p' <;> cases h <;> simp

/-- The shape tells whether a task has stored. So which tasks a serial order must contain does not
depend on the values. -/
theorem done_of_shape {σ' : Type} {p : Phase σ} {p' : Phase σ'} (h : p.shape = p'.shape) :
    p = .done ↔ p' = .done := by
  cases p <;> cases p' <;> cases h <;> simp

def State.new (init : σ) : State τ σ where
  value := init
  stores := []
  phase := fun _ => .idle

/-- The value after the updates of `order`, one after another. -/
def applyAll (f : τ → σ → σ) (init : σ) (order : List τ) : σ := order.foldl (fun v t => f t v) init

/-- The cell holds what the tasks that have stored make of `init` in some order. -/
def Serial (init : σ) (f : τ → σ → σ) (s : State τ σ) : Prop :=
  ∃ order : List τ, order.Nodup ∧ (∀ t, t ∈ order ↔ s.phase t = .done) ∧
    s.value = applyAll f init order

/-- Nobody has stored since the read of the task that stores. -/
def Fresh (s : State τ σ) : Act τ → Prop
  | .read _ => True
  | .store t => ∀ since ∈ (s.phase t).since, since = s.stores.length

instance (s : State τ σ) : (a : Act τ) → Decidable (Fresh s a)
  | .read _ => .isTrue trivial
  | .store t => inferInstanceAs (Decidable (∀ since ∈ (s.phase t).since, since = s.stores.length))

variable [DecidableEq τ]

/-- One step, where the update of task `t` is `f t`. -/
def step (f : τ → σ → σ) (s : State τ σ) : Act τ → Option (State τ σ)
  | .read t => match s.phase t with
    | .idle =>
      some { s with phase := Function.update s.phase t (.holding s.value s.stores.length) }
    | _ => none
  | .store t => match s.phase t with
    | .holding read _ =>
      some { value := f t read
             stores := s.stores ++ [t]
             phase := Function.update s.phase t .done }
    | _ => none

def system (init : σ) (f : τ → σ → σ) : System (State τ σ) (Act τ) where
  init := .new init
  step := step f

/-- The transitions. -/
inductive Step (f : τ → σ → σ) (s : State τ σ) : Act τ → State τ σ → Prop where
  | read {t : τ} (ht : s.phase t = .idle) :
      Step f s (.read t)
        { s with phase := Function.update s.phase t (.holding s.value s.stores.length) }
  | store {t : τ} {read : σ} {since : Nat} (ht : s.phase t = .holding read since) :
      Step f s (.store t)
        { value := f t read
          stores := s.stores ++ [t]
          phase := Function.update s.phase t .done }

/-- The inversion of the step function: a step that is enabled is one of the two transitions. -/
theorem step_cases {f : τ → σ → σ} {s s' : State τ σ} {a : Act τ} (h : step f s a = some s') :
    Step f s a s' := by
  cases a with
  | read t =>
    simp only [step] at h
    split at h
    · next ht => cases h; exact .read ht
    · cases h
  | store t =>
    simp only [step] at h
    split at h
    · next ht => cases h; exact .store ht
    · cases h

variable {init : σ} {f : τ → σ → σ}

/-! ## Who has stored

The list of stores is a history that no task reads. It counts the stores, and it names the only
order in which the updates could have been made one after another. -/

/-- The list of stores has each task that is done, once, and nobody holds a value from after
the last store. -/
structure Listed (s : State τ σ) : Prop where
  nodup : s.stores.Nodup
  mem : ∀ t, t ∈ s.stores ↔ s.phase t = .done
  since_le : ∀ t read since, s.phase t = .holding read since → since ≤ s.stores.length

/-- A read adds nothing to the list, and its number of stores is the present one. A store adds its
task, which was not listed, for it held a value until then. -/
theorem Listed.step {s s' : State τ σ} {a : Act τ} (h : Listed s) (hstep : Step f s a s') :
    Listed s' := by
  -- a read lists nothing, a store lists its task
  cases hstep with
  | @read t ht =>
    refine ⟨h.nodup, fun t' => ?_, fun t' read since ht' => ?_⟩
    · show t' ∈ s.stores ↔ Function.update s.phase t _ t' = .done
      rw [h.mem t']
      by_cases htt : t' = t
      · subst htt; simp [ht]
      · simp [htt]
    · rcases update_cases ht' with ⟨-, hnew⟩ | ⟨-, hold⟩
      · cases hnew; exact Nat.le_refl _
      · exact h.since_le t' read since hold
  | @store t read since ht =>
    have hnew : t ∉ s.stores := by
      rw [h.mem t, ht]
      exact nofun
    refine ⟨?_, fun t' => ?_, fun t' read' since' ht' => ?_⟩
    · -- the task is not done before its store, so it was not listed
      refine List.nodup_append.mpr ⟨h.nodup, by simp, fun t' ht' u hu htu => ?_⟩
      rw [List.mem_singleton.mp hu] at htu
      exact hnew (htu ▸ ht')
    · by_cases htt : t' = t
      · subst htt; simp
      · simp [htt, h.mem t']
    · rcases update_cases ht' with ⟨-, hdone⟩ | ⟨-, hold⟩
      · cases hdone
      · have hle := h.since_le t' read' since' hold
        simp
        omega

/-- Nobody has stored at first, and every step keeps the list right. -/
theorem listed_of_run {as : List (Act τ)} {s : State τ σ} (run : (system init f).Run as s) :
    Listed s :=
  run.invariant ⟨.nil, fun _ => ⟨nofun, nofun⟩, nofun⟩
    fun _ _ _ _ _ h _ hstep => h.step (step_cases hstep)

/-- After a store everybody who holds a value read it before that store: nobody can have seen one
store more than there had been. -/
theorem Listed.read_before_store {s : State τ σ} (h : Listed s) {t t' : τ} {read : σ}
    (ht' : Function.update s.phase t .done t' = .holding read (s.stores.length + 1)) : False := by
  rcases update_cases ht' with ⟨-, hdone⟩ | ⟨-, hold⟩
  · cases hdone
  · exact absurd (h.since_le t' read _ hold) (Nat.not_succ_le_self _)

/-! ## Fresh stores

If each store is fresh, then what a task stores is made of what the cell holds, as if its read and
its store were one step. -/

/-- The cell holds the stores in their order, and who has read since the last store holds what
is in the cell. -/
structure Current (init : σ) (f : τ → σ → σ) (s : State τ σ) : Prop where
  value : s.value = applyAll f init s.stores
  read : ∀ t read, s.phase t = .holding read s.stores.length → read = s.value

/-- A fresh store adds its task behind the order so far, and what it read is the value of that
order. A read takes the present value, which is why nothing is asked of it. -/
theorem Current.step {s s' : State τ σ} {a : Act τ} (h : Current init f s) (hl : Listed s)
    (hfresh : Fresh s a) (hstep : Step f s a s') : Current init f s' := by
  -- what a task has read is what was in the cell, as long as nobody stores in between
  cases hstep with
  | @read t ht =>
    refine ⟨h.value, fun t' read ht' => ?_⟩
    rcases update_cases ht' with ⟨-, hnew⟩ | ⟨-, hold⟩
    · cases hnew; rfl
    · exact h.read t' read hold
  | @store t read since ht =>
    have hsince : since = s.stores.length := hfresh since (by simp [ht, Phase.since])
    -- so the task has read what is in the cell now
    subst hsince
    refine ⟨?_, fun t' read' ht' => ?_⟩
    · show f t read = applyAll f init (s.stores ++ [t])
      rw [h.read t read ht, h.value]
      simp [applyAll]
    · rw [List.length_append] at ht'
      exact (hl.read_before_store ht').elim

/-- **Fresh stores are serial.** The order is that of the stores: the two invariants say that it has
each task that is done once, and that the cell holds what it makes. -/
theorem serial_of_fresh {as : List (Act τ)} {s : State τ σ}
    (run : (system init f).RunUnder Fresh as s) : Serial init f s := by
  have hcurrent : Current init f s := by
    refine run.invariant (P := Current init f) ⟨rfl, fun _ _ ht => by cases ht⟩ ?_
    intro as s a s' run h hfresh hstep
    exact h.step (listed_of_run run.run) hfresh (step_cases hstep)
  have hlisted := listed_of_run run.run
  exact ⟨s.stores, hlisted.nodup, hlisted.mem, hcurrent.value⟩

/-! ## A stale store

For the converse one update is enough that can be counted: each makes the value bigger by one. A
stale store then loses an update, and the value can never make up for it. -/

section Size

variable (size : σ → Nat)

/-- No value is bigger than the number of stores behind it makes it. -/
structure Sized (init : σ) (s : State τ σ) : Prop where
  value : size s.value ≤ size init + s.stores.length
  read : ∀ t read since, s.phase t = .holding read since → size read ≤ size init + since

/-- Some store has been overwritten: the value is too small, and so is what anybody has read
since the last store. -/
structure Short (init : σ) (s : State τ σ) : Prop where
  value : size s.value < size init + s.stores.length
  read : ∀ t read, s.phase t = .holding read s.stores.length →
    size read < size init + s.stores.length

variable {size}

/-- No value gets ahead of the stores behind it: a store puts one on top of what was read, and
counts as one itself. -/
theorem Sized.step {s s' : State τ σ} {a : Act τ} (hsize : ∀ t v, size (f t v) = size v + 1)
    (h : Sized size init s) (hl : Listed s) (hstep : Step f s a s') : Sized size init s' := by
  cases hstep with
  | @read t ht =>
    refine ⟨h.value, fun t' read since ht' => ?_⟩
    rcases update_cases ht' with ⟨-, hnew⟩ | ⟨-, hold⟩
    · cases hnew; exact h.value
    · exact h.read t' read since hold
  | @store t read since ht =>
    have hread := h.read t read since ht
    have hle := hl.since_le t read since ht
    refine ⟨?_, fun t' read' since' ht' => ?_⟩
    · simp [hsize]
      omega
    · rcases update_cases ht' with ⟨-, hdone⟩ | ⟨-, hold⟩
      · cases hdone
      · exact h.read t' read' since' hold

/-- Once a store was lost the value stays too small, for a later store builds on a value that is
short, or on an older one, which is smaller still. -/
theorem Short.step {s s' : State τ σ} {a : Act τ} (hsize : ∀ t v, size (f t v) = size v + 1)
    (h : Short size init s ∨ ¬ Fresh s a) (hsized : Sized size init s) (hl : Listed s)
    (hstep : Step f s a s') : Short size init s' := by
  cases hstep with
  | @read t ht =>
    rcases h with h | hstale
    · refine ⟨h.value, fun t' read ht' => ?_⟩
      rcases update_cases ht' with ⟨-, hnew⟩ | ⟨-, hold⟩
      · cases hnew; exact h.value
      · exact h.read t' read hold
    · exact absurd trivial hstale
  -- a store from an old reading undoes one that came in between
  | @store t read since ht =>
    have hread := hsized.read t read since ht
    have hle := hl.since_le t read since ht
    refine ⟨?_, fun t' read' ht' => ?_⟩
    · simp only [hsize, List.length_append, List.length_singleton]
      -- the task read since the last store, or before it
      by_cases hsince : since = s.stores.length
      · subst hsince
        rcases h with h | hstale
        · have := h.read t read ht
          omega
        · exact absurd (by simp [Fresh, ht, Phase.since]) hstale
      · omega
    · rw [List.length_append] at ht'
      exact (hl.read_before_store ht').elim

/-- The bound on the values holds in every state of every run, with or without stale stores. -/
theorem sized_of_run (hsize : ∀ t v, size (f t v) = size v + 1) {as : List (Act τ)}
    {s : State τ σ} (run : (system init f).Run as s) : Sized size init s := by
  refine run.invariant (P := Sized size init) ⟨Nat.le_refl _, nofun⟩ ?_
  intro as s a s' run h _ hstep
  exact h.step hsize (listed_of_run run) (step_cases hstep)

omit [DecidableEq τ] in
/-- One after another the updates make the value bigger by their number. Induction on the order. -/
theorem size_applyAll (hsize : ∀ t v, size (f t v) = size v + 1) (order : List τ) (init : σ) :
    size (applyAll f init order) = size init + order.length := by
  induction order generalizing init with
  | nil => rfl
  | cons t order ih =>
    show size (applyAll f (f t init) order) = _
    rw [ih, hsize, List.length_cons]
    omega

omit [DecidableEq τ] in
/-- A value that is short is not serial: any order that has all the tasks once is a permutation of
the stores, and so has their number. -/
theorem Short.not_serial (hsize : ∀ t v, size (f t v) = size v + 1) {s : State τ σ}
    (h : Short size init s) (hl : Listed s) : ¬ Serial init f s := by
  rintro ⟨order, hnodup, hmem, hvalue⟩
  have hperm : order.Perm s.stores := by
    rw [List.perm_ext_iff_of_nodup hnodup hl.nodup]
    intro t
    rw [hmem t, hl.mem t]
  have hshort := h.value
  rw [hvalue, size_applyAll hsize, hperm.length_eq] at hshort
  exact Nat.lt_irrefl _ hshort

/-- **A stale store is not serial** for updates that make the value bigger by one. Induction on the
run: at its first stale store the value becomes short, and it stays so. -/
theorem not_serial_of_stale (hsize : ∀ t v, size (f t v) = size v + 1) {as : List (Act τ)}
    {s : State τ σ} (run : (system init f).Run as s)
    (hstale : ¬ (system init f).RunUnder Fresh as s) : ¬ Serial init f s := by
  have hshort : Short size init s := by
    -- by the last step; from the first stale store on the cell is behind
    induction run with
    | nil => exact absurd .nil hstale
    | @snoc as s s' a run _ hstep ih =>
      refine Short.step hsize ?_ (sized_of_run hsize run) (listed_of_run run) (step_cases hstep)
      by_cases hfresh : Fresh s a
      · exact Or.inl (ih fun hunder => hstale (.snoc hunder hfresh hstep))
      · exact Or.inr hfresh
  exact hshort.not_serial hsize (listed_of_run run)

end Size

/-! ## Schedules

Whether a store is fresh, and whether a step is enabled at all, does not depend on the values. So
one schedule can be looked at with different updates, and the updates that count serve for all of
them. -/

/-- Two states that differ in values only. -/
structure SameShape {σ' : Type} (s : State τ σ) (s' : State τ σ') : Prop where
  stores : s.stores = s'.stores
  phase : ∀ t, (s.phase t).shape = (s'.phase t).shape

variable {σ' : Type} {init' : σ'} {f' : τ → σ' → σ'}

omit [DecidableEq τ] in
/-- A store is as fresh with the one update as with the other. -/
theorem SameShape.fresh {s : State τ σ} {s' : State τ σ'} (h : SameShape s s') {a : Act τ} :
    Fresh s a ↔ Fresh s' a := by
  cases a with
  | read t => exact Iff.rfl
  | store t => simp only [Fresh, since_of_shape (h.phase t), h.stores]

/-- What is enabled does not depend on the values: the same action can be taken in both states, and
they keep their shape. -/
theorem SameShape.step {s s₁ : State τ σ} {s' : State τ σ'} {a : Act τ} (h : SameShape s s')
    (hstep : Step f s a s₁) (f' : τ → σ' → σ') :
    ∃ s₁', Cell.step f' s' a = some s₁' ∧ SameShape s₁ s₁' := by
  have hupdate : ∀ {p : Phase σ} {p' : Phase σ'} {t : τ}, p.shape = p'.shape → ∀ t',
      (Function.update s.phase t p t').shape = (Function.update s'.phase t p' t').shape := by
    intro p p' t hp t'
    by_cases ht : t' = t
    · subst ht; simp [hp]
    · simp [ht, h.phase t']
  -- the same task can take the same step with other values
  cases hstep with
  | @read t ht =>
    have ht' : s'.phase t = .idle := by
      have hshape := h.phase t
      rw [ht] at hshape
      cases hp : s'.phase t <;> rw [hp] at hshape <;> first | rfl | cases hshape
    refine ⟨{ s' with phase := Function.update s'.phase t (.holding s'.value s'.stores.length) },
      by simp [Cell.step, ht'], h.stores, hupdate ?_⟩
    simp [Phase.shape, h.stores]
  | @store t read since ht =>
    obtain ⟨read', ht'⟩ : ∃ read', s'.phase t = .holding read' since := by
      have hshape := h.phase t
      rw [ht] at hshape
      cases hp : s'.phase t <;> rw [hp] at hshape <;> cases hshape
      exact ⟨_, rfl⟩
    refine ⟨⟨f' t read', s'.stores ++ [t], Function.update s'.phase t .done⟩,
      by simp [Cell.step, ht'], by rw [h.stores], hupdate rfl⟩

/-- A schedule that runs with some updates runs with any, and its stores are as fresh. Whether a
step can be taken depends on where the tasks stand, and never on the value. -/
theorem exists_sameShape {as : List (Act τ)} {s : State τ σ} (run : (system init f).Run as s)
    (init' : σ') (f' : τ → σ' → σ') :
    ∃ s', (system init' f').Run as s' ∧ SameShape s s' ∧
      ((system init f).RunUnder Fresh as s ↔ (system init' f').RunUnder Fresh as s') := by
  induction run with
  | nil => exact ⟨.new init', .nil, ⟨rfl, fun _ => rfl⟩, ⟨fun _ => .nil, fun _ => .nil⟩⟩
  | @snoc as s s₁ a run _ hstep ih =>
    obtain ⟨s', run', hsame, hfresh⟩ := ih
    obtain ⟨s₁', hstep', hsame'⟩ := hsame.step (step_cases hstep) f'
    refine ⟨s₁', .snoc run' trivial hstep', hsame', fun hunder => ?_, fun hunder => ?_⟩
    · obtain ⟨t, ht, hcond, -⟩ := hunder.unsnoc
      obtain rfl := ht.run.eq run
      exact .snoc (hfresh.mp ht) (hsame.fresh.mp hcond) hstep'
    · obtain ⟨t, ht, hcond, -⟩ := hunder.unsnoc
      obtain rfl := ht.run.eq run'
      exact .snoc (hfresh.mpr ht) (hsame.fresh.mpr hcond) hstep

/-- **Serial for all updates, exactly with fresh stores**, as soon as there are updates that
make the value bigger by one. -/
theorem serial_iff_fresh {size : σ → Nat} {grow : τ → σ → σ}
    (hsize : ∀ t v, size (grow t v) = size v + 1) {as : List (Act τ)} {s : State τ σ}
    (run : (system init f).Run as s) :
    (∀ f' s', (system init f').Run as s' → Serial init f' s') ↔
      (system init f).RunUnder Fresh as s := by
  constructor
  · -- if some store is stale, a function that counts shows it
    intro hserial
    obtain ⟨s', run', -, hfresh⟩ := exists_sameShape run init grow
    refine hfresh.mpr ?_
    by_contra hstale
    exact not_serial_of_stale hsize run' hstale (hserial grow s' run')
  · intro hunder f' s' run'
    obtain ⟨t, ht, -, hfresh⟩ := exists_sameShape run init f'
    obtain rfl := ht.eq run'
    exact serial_of_fresh (hfresh.mp hunder)

end Concurrency.Cell
