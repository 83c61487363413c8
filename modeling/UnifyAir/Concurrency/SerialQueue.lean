import Mathlib.Data.List.Nodup
import UnifyAir.Concurrency.System

/-!
# Concurrency — a job queue with a worker on demand

A list of jobs behind a lock, and a flag that says whether a worker is active. Whoever has a
job takes the lock, appends the job, and if the flag is down raises it and spawns a worker
before it lets go of the lock. The worker takes the lock for each job, runs the job while it
holds the lock, and when it finds the list empty lowers the flag and stops.

Callers and workers are actors of one type; a job is named by the actor that appended it.
`arrived` and `started` record in which order jobs were appended and started.

* **`Attended`** — the hand-over between a worker that stops and a caller that looks at the
  flag: one worker at most, and no job without somebody who will see to it.
* **`Ordered`** — no job is lost, doubled or overtaken.

Both hold in every state the steps lead to (`Attended.step`, `Ordered.step`).
-/

namespace Concurrency.SerialQueue

/-- Where an actor stands. -/
inductive Phase (α : Type) where
  | out
  -- callers, all with the lock
  | locked
  | appended
  | storing
  | spawning
  | leaving
  -- workers; `waiting` is the only place of a live worker without the lock
  | waiting
  | awake
  | popped (job : α)
  | running (job : α)
  | ending
  | exiting
  | over
  deriving DecidableEq, Repr

namespace Phase

variable {α : Type}

/-- The actor has the lock. -/
def inside : Phase α → Bool
  | .out | .waiting | .over => false
  | _ => true

/-- A worker that has been spawned and has not finished. -/
def live : Phase α → Bool
  | .waiting | .awake | .popped _ | .running _ | .ending | .exiting => true
  | _ => false

/-- A live worker that will look at the list again. -/
def serving : Phase α → Bool
  | .waiting | .awake | .popped _ | .running _ | .ending => true
  | _ => false

/-- The job a worker has taken off the list and not yet started. -/
def hand : Phase α → Option α
  | .popped job => some job
  | _ => none

/-- A caller that has appended its job. -/
def past : Phase α → Bool
  | .appended | .storing | .spawning | .leaving | .over => true
  | _ => false

/-- A worker that will look at the list again has not finished. -/
theorem live_of_serving {ph : Phase α} (h : ph.serving = true) : ph.live = true := by
  cases ph <;> first | rfl | cases h

/-- A live worker serves or is about to stop. The second has found the list empty and has the lock
still, which is why no job can come in between. -/
theorem serving_or_exiting {ph : Phase α} (h : ph.live = true) :
    ph.serving = true ∨ ph = .exiting := by
  cases ph <;> first | exact Or.inl rfl | exact Or.inr rfl | cases h

end Phase

@[ext]
structure State (α : Type) where
  phase : α → Phase α
  lock : Option α
  jobs : List α
  active : Bool
  arrived : List α
  started : List α

variable {α : Type}

/-! ## One worker

The clauses of `Attended` hold each other up. What matters to a caller is the last: a job that
nobody serves has a caller that will raise the flag and spawn a worker. -/

/-- One worker at most, and every job is seen to. -/
structure Attended (s : State α) : Prop where
  inside_iff : ∀ a, (s.phase a).inside = true ↔ s.lock = some a
  worker_unique : ∀ a b, (s.phase a).live = true → (s.phase b).live = true → a = b
  active_of_serving : ∀ a, (s.phase a).serving = true → s.active = true
  idle_of_storing : ∀ a, s.phase a = .storing → s.active = false
  no_worker_of_spawning : ∀ a b, s.phase a = .spawning → (s.phase b).live = false
  active_of_spawning : ∀ a, s.phase a = .spawning → s.active = true
  served : s.active = true → ∃ a, (s.phase a).serving = true ∨ s.phase a = .spawning
  seen : s.jobs ≠ [] → s.active = true ∨ ∃ a, s.phase a = .appended ∨ s.phase a = .storing

/-- Only one actor has the lock. Two actors inside are therefore one, and this is how most of the
cases that cannot happen are closed. -/
theorem Attended.sole {s : State α} (h : Attended s) {a b : α} (ha : (s.phase a).inside = true)
    (hb : (s.phase b).inside = true) : a = b :=
  Option.some.inj (((h.inside_iff a).mp ha).symm.trans ((h.inside_iff b).mp hb))

/-- A caller that found the flag down is alone with the queue: a serving worker would have it
up, and one that is about to stop would have the lock. -/
theorem Attended.no_worker_of_storing {s : State α} (h : Attended s) {a : α}
    (ha : s.phase a = .storing) (b : α) : (s.phase b).live = false := by
  by_contra hlive
  rcases Phase.serving_or_exiting (Bool.not_eq_false _ ▸ hlive) with hserve | hexit
  · exact absurd (h.active_of_serving b hserve) (by simp [h.idle_of_storing a ha])
  · have hab := h.sole (a := a) (b := b) (by rw [ha]; rfl) (by rw [hexit]; rfl)
    rw [hab, hexit] at ha
    cases ha

/-- Where the flag is up and nobody is about to spawn, there is a live worker. The flag is never up
without one of the two. -/
theorem Attended.worker_of_active {s : State α} (h : Attended s)
    (hspawn : ∀ a, s.phase a ≠ .spawning) (hactive : s.active = true) :
    ∃ w, (s.phase w).live = true := by
  obtain ⟨w, hserve | hw⟩ := h.served hactive
  · exact ⟨w, Phase.live_of_serving hserve⟩
  · exact absurd hw (hspawn w)

theorem Attended.outside_of_free {s : State α} (h : Attended s) (hfree : s.lock = none) (a : α) :
    (s.phase a).inside = false := by
  by_contra hin
  rw [(h.inside_iff a).mp (Bool.not_eq_false _ ▸ hin)] at hfree
  cases hfree

/-- A job on an unlocked list has a live worker: its caller has let go of the lock, so that it has
looked at the flag and spawned a worker if it was down. -/
theorem Attended.worker_of_job {s : State α} (h : Attended s) (hfree : s.lock = none)
    (hjobs : s.jobs ≠ []) : ∃ w, (s.phase w).live = true := by
  -- nobody is inside, so nobody is between the append and the spawn
  have houtside := h.outside_of_free hfree
  refine h.worker_of_active (fun a ha => ?_) ?_
  · exact absurd (houtside a) (by simp [ha, Phase.inside])
  · rcases h.seen hjobs with hact | ⟨a, happ | hsto⟩
    · exact hact
    · exact absurd (houtside a) (by simp [happ, Phase.inside])
    · exact absurd (houtside a) (by simp [hsto, Phase.inside])

/-- Next to a worker with the lock nobody has a job in hand, for there is one worker only. -/
theorem Attended.not_popped {s : State α} (h : Attended s) {w : α} (hw : (s.phase w).live = true)
    (hhand : (s.phase w).hand = none) (w' job : α) : s.phase w' ≠ .popped job := by
  intro hpop
  have hww := h.worker_unique w w' hw (by rw [hpop]; rfl)
  rw [hww, hpop] at hhand
  cases hhand

/-! ## No job lost, doubled or overtaken

Between a job that was taken off the list and its start there is one step in which it is on neither
side of the account; it is then in the hand of the worker. -/

/-- The jobs are accounted for: what has arrived is what was started, then what a worker has
in hand, then what is on the list, in this order. -/
structure Ordered (s : State α) : Prop where
  account : ∃ hand, s.arrived = s.started ++ hand ++ s.jobs ∧
    (∀ w job, s.phase w = .popped job → hand = [job]) ∧
    ((∀ w job, s.phase w ≠ .popped job) → hand = [])
  past_of_arrived : ∀ a ∈ s.arrived, (s.phase a).past = true
  arrived_nodup : s.arrived.Nodup

/-! ## The steps

One step for each thing that a task or a worker does to the list or to the flag. Between two of them
any other may come. -/

variable [DecidableEq α]

def State.move (s : State α) (a : α) (ph : Phase α) : State α :=
  { s with phase := Function.update s.phase a ph }

/-- The steps of the queue. -/
inductive Step (s : State α) : State α → Prop where
  | withdraw (a : α) (h : s.phase a = .out) : Step s (s.move a .over)
  | lock (a : α) (h : s.phase a = .out) (hfree : s.lock = none) :
      Step s { s.move a .locked with lock := some a }
  | append (a : α) (h : s.phase a = .locked) :
      Step s { s.move a .appended with jobs := s.jobs ++ [a], arrived := s.arrived ++ [a] }
  | seeActive (a : α) (h : s.phase a = .appended) (hact : s.active = true) :
      Step s (s.move a .leaving)
  | seeIdle (a : α) (h : s.phase a = .appended) (hact : s.active = false) :
      Step s (s.move a .storing)
  | store (a : α) (h : s.phase a = .storing) :
      Step s { s.move a .spawning with active := true }
  | spawn (a w : α) (h : s.phase a = .spawning) (hw : s.phase w = .out) :
      Step s ((s.move w .waiting).move a .leaving)
  | unlock (a : α) (h : s.phase a = .leaving) : Step s { s.move a .over with lock := none }
  | wake (w : α) (h : s.phase w = .waiting) (hfree : s.lock = none) :
      Step s { s.move w .awake with lock := some w }
  | pop (w job : α) (rest : List α) (h : s.phase w = .awake) (hjobs : s.jobs = job :: rest) :
      Step s { s.move w (.popped job) with jobs := rest }
  | stop (w : α) (h : s.phase w = .awake) (hjobs : s.jobs = []) :
      Step s { s.move w .exiting with active := false }
  | start (w job : α) (h : s.phase w = .popped job) :
      Step s { s.move w (.running job) with started := s.started ++ [job] }
  | complete (w job : α) (h : s.phase w = .running job) : Step s (s.move w .ending)
  | again (w : α) (h : s.phase w = .ending) : Step s { s.move w .waiting with lock := none }
  | exit (w : α) (h : s.phase w = .exiting) : Step s { s.move w .over with lock := none }

/-! ## Every step keeps the invariants

Most steps move one actor and leave the flag alone; for those `Attended.move` asks a few things of
the phases before and after. The three that touch the flag, or make a worker, have lemmas of their
own. -/

/-- The lock after a move of `a`: untouched, taken by `a`, or given back by `a`. -/
inductive LockMove (s : State α) (a : α) (p : Phase α) : Option α → Prop where
  | same (h : p.inside = (s.phase a).inside) : LockMove s a p s.lock
  | take (hfree : s.lock = none) (h : p.inside = true) : LockMove s a p (some a)
  | release (ha : (s.phase a).inside = true) (h : p.inside = false) : LockMove s a p none

/-- The clause on the lock, for all three kinds of moves: who is inside is who has the lock. -/
theorem Attended.inside_move {s : State α} (h : Attended s) {a : α} {p : Phase α}
    {lock : Option α} (hlock : LockMove s a p lock) (b : α) :
    (Function.update s.phase a p b).inside = true ↔ lock = some b := by
  by_cases hb : b = a
  · subst hb
    rw [Function.update_self]
    cases hlock with
    | same hin => rw [hin]; exact h.inside_iff b
    | take hfree hin => exact ⟨fun _ => rfl, fun _ => hin⟩
    | release ha hin => rw [hin]; exact ⟨nofun, nofun⟩
  · rw [Function.update_of_ne hb, h.inside_iff b]
    cases hlock with
    | same => rfl
    | take hfree =>
      rw [hfree]
      exact ⟨nofun, fun heq => absurd (Option.some.inj heq).symm hb⟩
    | release ha =>
      rw [(h.inside_iff a).mp ha]
      exact ⟨fun heq => absurd (Option.some.inj heq).symm hb, nofun⟩

/-- A move that leaves the flag alone. What it must not do is make a worker, or leave jobs on the
list that nobody sees to; the rest of the invariant is about actors that have not moved. -/
theorem Attended.move {s : State α} (h : Attended s) {a : α} {p : Phase α} {lock : Option α}
    {jobs arrived started : List α} (hlock : LockMove s a p lock)
    (hlive : p.live = true → (s.phase a).live = true)
    (hserving : p.serving = (s.phase a).serving)
    (hstoring : p = .storing → s.active = false)
    (hspawning : p ≠ .spawning ∧ s.phase a ≠ .spawning)
    (hseen : jobs ≠ [] → s.active = true ∨ ∃ b, Function.update s.phase a p b = .appended ∨
      Function.update s.phase a p b = .storing) :
    Attended { s.move a p with lock, jobs, arrived, started } := by
  have hlive' : ∀ b, (Function.update s.phase a p b).live = true → (s.phase b).live = true := by
    intro b hb
    exact of_update (fun q : Phase α => q.live = true) hlive hb
  have hserving' : ∀ b, (Function.update s.phase a p b).serving = (s.phase b).serving :=
    update_view Phase.serving hserving
  have hspawning' : ∀ b, Function.update s.phase a p b = .spawning ↔ s.phase b = .spawning := by
    intro b
    constructor
    · exact of_update (· = Phase.spawning) fun hp => absurd hp hspawning.1
    · exact to_update (· = Phase.spawning) fun ha => absurd ha hspawning.2
  refine ⟨h.inside_move hlock, fun b c hb hc => ?_, fun b hb => ?_, fun b hb => ?_,
    fun b c hb => ?_, fun b hb => ?_, fun hact => ?_, hseen⟩
  · exact h.worker_unique b c (hlive' b hb) (hlive' c hc)
  · exact h.active_of_serving b ((hserving' b).symm.trans hb)
  · rcases update_cases hb with ⟨-, hp⟩ | ⟨-, hold⟩
    · exact hstoring hp
    · exact h.idle_of_storing b hold
  · have hnone := h.no_worker_of_spawning b c ((hspawning' b).mp hb)
    exact Bool.eq_false_iff.mpr fun hc => by rw [hlive' c hc] at hnone; cases hnone
  · exact h.active_of_spawning b ((hspawning' b).mp hb)
  · obtain ⟨b, hserve | hspawn⟩ := h.served hact
    · exact ⟨b, Or.inl ((hserving' b).trans hserve)⟩
    · exact ⟨b, Or.inr ((hspawning' b).mpr hspawn)⟩

/-- Jobs stay seen to when somebody moves who was not between the append and the store. -/
theorem Attended.seen_move {s : State α} (h : Attended s) {a : α} {p : Phase α}
    (happ : s.phase a ≠ .appended) (hsto : s.phase a ≠ .storing) (hjobs : s.jobs ≠ []) :
    s.active = true ∨ ∃ b, Function.update s.phase a p b = .appended ∨
      Function.update s.phase a p b = .storing := by
  rcases h.seen hjobs with hact | ⟨b, hb⟩
  · exact Or.inl hact
  · have hba : b ≠ a := by
      rintro rfl
      exact hb.elim happ hsto
    exact Or.inr ⟨b, by rwa [Function.update_of_ne hba]⟩

/-- The caller that found the flag down raises it: there is no worker, and the caller itself
is the one who will spawn it. -/
theorem Attended.store {s : State α} (h : Attended s) {a : α} (ha : s.phase a = .storing) :
    Attended { s.move a .spawning with active := true } := by
  have hquiet : ∀ b, (Function.update s.phase a .spawning b).live = false := by
    intro b
    exact to_update (fun q : Phase α => q.live = false) (fun _ => rfl) (h.no_worker_of_storing ha b)
  refine ⟨h.inside_move (.same (by rw [ha]; rfl)), fun b c hb => ?_, fun _ _ => rfl,
    fun b hb => ?_, fun b c _ => hquiet c, fun _ _ => rfl,
    fun _ => ⟨a, Or.inr (Function.update_self ..)⟩, fun _ => Or.inl rfl⟩
  · exact absurd hb (Bool.eq_false_iff.mp (hquiet b))
  · -- another caller in its place would have the lock as well
    rcases update_cases hb with ⟨-, hp⟩ | ⟨hne, hold⟩
    · cases hp
    · exact absurd (h.sole (by rw [hold]; rfl) (by rw [ha]; rfl)) hne

/-- The new worker is the only one: while its caller was to spawn it there was none. The flag is up
since the caller raised it, so that the worker serves a queue which counts as active. -/
theorem Attended.spawn {s : State α} (h : Attended s) {a w : α} (ha : s.phase a = .spawning)
    (hw : s.phase w = .out) : Attended ((s.move w .waiting).move a .leaving) := by
  have haw : a ≠ w := fun haw => by rw [haw, hw] at ha; cases ha
  have hphase : ∀ b, ((s.move w .waiting).move a .leaving).phase b =
      if b = a then .leaving else if b = w then .waiting else s.phase b := by
    intro b
    simp only [State.move, Function.update_apply]
  have hlive : ∀ b, (((s.move w .waiting).move a .leaving).phase b).live = true → b = w := by
    intro b hb
    rw [hphase] at hb
    split at hb
    · cases hb
    · split at hb
      · next hbw => exact hbw
      · rw [h.no_worker_of_spawning a b ha] at hb; cases hb
  have hactive := h.active_of_spawning a ha
  have hwait : ((s.move w .waiting).move a .leaving).phase w = .waiting := by
    rw [hphase, if_neg haw.symm, if_pos rfl]
  refine ⟨fun b => ?_, fun b c hb hc => (hlive b hb).trans (hlive c hc).symm, fun _ _ => hactive,
    fun b hb => ?_, fun b c hb => ?_, fun _ _ => hactive, fun _ => ⟨w, Or.inl (by rw [hwait]; rfl)⟩,
    fun _ => Or.inl hactive⟩
  · rw [hphase]
    change _ ↔ s.lock = some b
    rw [← h.inside_iff b]
    split
    · next hba => rw [hba, ha]; exact iff_of_true rfl rfl
    · split
      · next hbw => rw [hbw, hw]; exact iff_of_false nofun nofun
      · rfl
  · rw [hphase] at hb
    split at hb
    · cases hb
    · split at hb
      · cases hb
      · exact absurd hactive (by simp [h.idle_of_storing b hb])
  · rw [hphase] at hb
    split at hb
    · cases hb
    · split at hb
      · cases hb
      · next hne _ => exact absurd (h.sole (by rw [hb]; rfl) (by rw [ha]; rfl)) hne

/-- The worker that found the list empty lowers the flag: nobody else serves or is about to spawn.
It does so with the lock in its hands, so that who appends afterwards sees the flag down. -/
theorem Attended.stop {s : State α} (h : Attended s) {w : α} (hw : s.phase w = .awake)
    (hjobs : s.jobs = []) : Attended { s.move w .exiting with active := false } := by
  have hactive := h.active_of_serving w (by rw [hw]; rfl)
  have hlive : ∀ b, (Function.update s.phase w .exiting b).live = true → b = w := by
    intro b hb
    rcases update_cases (rfl : Function.update s.phase w .exiting b = _) with ⟨hbw, -⟩ | ⟨-, hold⟩
    · exact hbw
    · rw [← hold] at hb
      exact h.worker_unique b w hb (by rw [hw]; rfl)
  have hspawning : ∀ b, Function.update s.phase w .exiting b ≠ .spawning := by
    intro b hb
    rcases update_cases hb with ⟨-, hp⟩ | ⟨-, hold⟩
    · cases hp
    · have hnone := h.no_worker_of_spawning b w hold
      rw [hw] at hnone
      cases hnone
  refine ⟨h.inside_move (.same (by rw [hw]; rfl)),
    fun b c hb hc => (hlive b hb).trans (hlive c hc).symm,
    fun b hb => ?_, fun _ _ => rfl, fun b _ hb => absurd hb (hspawning b),
    fun b hb => absurd hb (hspawning b), nofun, fun hne => absurd hjobs hne⟩
  have hbw := hlive b (Phase.live_of_serving hb)
  subst hbw
  change (Function.update s.phase b .exiting b).serving = true at hb
  rw [Function.update_self] at hb
  cases hb

/-- Every step keeps one worker at most and every job seen to. The cases are those of `move`, but
for `store`, `spawn` and `stop`. -/
theorem Attended.step {s s' : State α} (h : Attended s) (hstep : Step s s') : Attended s' := by
  cases hstep with
  | withdraw a ha =>
    exact h.move (.same (by rw [ha]; rfl)) nofun (by rw [ha]; rfl) nofun ⟨nofun, by rw [ha]; nofun⟩
      (h.seen_move (by rw [ha]; nofun) (by rw [ha]; nofun))
  | lock a ha hfree =>
    exact h.move (.take hfree rfl) nofun (by rw [ha]; rfl) nofun ⟨nofun, by rw [ha]; nofun⟩
      (h.seen_move (by rw [ha]; nofun) (by rw [ha]; nofun))
  | append a ha =>
    exact h.move (.same (by rw [ha]; rfl)) nofun (by rw [ha]; rfl) nofun ⟨nofun, by rw [ha]; nofun⟩
      fun _ => Or.inr ⟨a, Or.inl (Function.update_self ..)⟩
  | seeActive a ha hact =>
    exact h.move (.same (by rw [ha]; rfl)) nofun (by rw [ha]; rfl) nofun ⟨nofun, by rw [ha]; nofun⟩
      fun _ => Or.inl hact
  | seeIdle a ha hact =>
    exact h.move (.same (by rw [ha]; rfl)) nofun (by rw [ha]; rfl) (fun _ => hact)
      ⟨nofun, by rw [ha]; nofun⟩ fun _ => Or.inr ⟨a, Or.inr (Function.update_self ..)⟩
  | store a ha => exact h.store ha
  | spawn a w ha hw => exact h.spawn ha hw
  | unlock a ha =>
    exact h.move (.release (by rw [ha]; rfl) rfl) nofun (by rw [ha]; rfl) nofun
      ⟨nofun, by rw [ha]; nofun⟩ (h.seen_move (by rw [ha]; nofun) (by rw [ha]; nofun))
  | wake w hw hfree =>
    exact h.move (.take hfree rfl) (fun _ => by rw [hw]; rfl) (by rw [hw]; rfl) nofun
      ⟨nofun, by rw [hw]; nofun⟩ fun _ => Or.inl (h.active_of_serving w (by rw [hw]; rfl))
  | stop w hw hjobs => exact h.stop hw hjobs
  | pop w job rest hw | start w job hw | complete w job hw =>
    exact h.move (.same (by rw [hw]; rfl)) (fun _ => by rw [hw]; rfl) (by rw [hw]; rfl) nofun
      ⟨nofun, by rw [hw]; nofun⟩ fun _ => Or.inl (h.active_of_serving w (by rw [hw]; rfl))
  | again w hw =>
    exact h.move (.release (by rw [hw]; rfl) rfl) (fun _ => by rw [hw]; rfl) (by rw [hw]; rfl) nofun
      ⟨nofun, by rw [hw]; nofun⟩ fun _ => Or.inl (h.active_of_serving w (by rw [hw]; rfl))
  | exit w hw =>
    exact h.move (.release (by rw [hw]; rfl) rfl) nofun (by rw [hw]; rfl) nofun
      ⟨nofun, by rw [hw]; nofun⟩ (h.seen_move (by rw [hw]; nofun) (by rw [hw]; nofun))

/-- An actor moves that neither takes a job in hand nor gives one away. The account has the same
three parts as before. -/
theorem Ordered.move {s : State α} (h : Ordered s) {a : α} {p : Phase α}
    (hbefore : (s.phase a).hand = none) (hafter : p.hand = none)
    (hpast : (s.phase a).past = true → p.past = true) (lock : Option α) (active : Bool) :
    Ordered { s.move a p with lock := lock, active := active } := by
  have hpopped : ∀ w job, Function.update s.phase a p w = .popped job ↔
      s.phase w = .popped job := by
    intro w job
    constructor
    · refine of_update (· = Phase.popped job) fun hp => ?_
      rw [hp] at hafter
      cases hafter
    · refine to_update (· = Phase.popped job) fun hpop => ?_
      rw [hpop] at hbefore
      cases hbefore
  refine ⟨?_, fun b hb => ?_, h.arrived_nodup⟩
  · obtain ⟨hand, harr, hsome, hnone⟩ := h.account
    exact ⟨hand, harr, fun w job hw => hsome w job ((hpopped w job).mp hw),
      fun hno => hnone fun w job hw => hno w job ((hpopped w job).mpr hw)⟩
  · exact to_update (fun q : Phase α => q.past = true) hpast (h.past_of_arrived b hb)

/-- Every step keeps the account: `append` adds to what has arrived and to the list, `pop` moves the
first job of the list into the hand, and `start` from there to the jobs that were started. -/
theorem Ordered.step {s s' : State α} (hatt : Attended s) (h : Ordered s) (hstep : Step s s') :
    Ordered s' := by
  cases hstep with
  | withdraw a ha | lock a ha | seeActive a ha | seeIdle a ha | store a ha | unlock a ha
  | complete a _ ha | again a ha | exit a ha | stop a ha =>
    exact h.move (by rw [ha]; rfl) rfl (by simp [ha, Phase.past]) _ _
  | wake w hw => exact h.move (by rw [hw]; rfl) rfl (by simp [hw, Phase.past]) _ _
  | spawn a w ha hw =>
    have hmoved := h.move (a := w) (p := .waiting) (by rw [hw]; rfl) rfl (by simp [hw, Phase.past])
      s.lock s.active
    have haw : a ≠ w := fun haw => by rw [haw, hw] at ha; cases ha
    have ha' : (s.move w .waiting).phase a = .spawning := (Function.update_of_ne haw ..).trans ha
    exact hmoved.move (by rw [ha']; rfl) rfl (fun _ => rfl) s.lock s.active
  | append a ha =>
    -- whoever has appended is past the lock
    have hfresh : a ∉ s.arrived := fun hmem => by
      have := h.past_of_arrived a hmem
      rw [ha] at this
      cases this
    have hmoved := h.move (a := a) (p := .appended) (by rw [ha]; rfl) rfl (fun _ => rfl)
      s.lock s.active
    obtain ⟨hand, harr, hsome, hnone⟩ := hmoved.account
    refine ⟨⟨hand, ?_, hsome, hnone⟩, fun b hb => ?_, ?_⟩
    · change s.arrived = s.started ++ hand ++ s.jobs at harr
      simp only [State.move, harr, List.append_assoc]
    · rcases List.mem_append.mp hb with hb | hb
      · exact hmoved.past_of_arrived b hb
      · rw [List.mem_singleton] at hb
        subst hb
        simp [State.move, Phase.past]
    · exact h.arrived_nodup.append (List.nodup_singleton a) (by simpa using hfresh)
  | pop w job rest hw hjobs =>
    obtain ⟨hand, harr, -, hnone⟩ := h.account
    -- the worker has the lock, so no other has a job in hand
    have hempty : hand = [] := hnone (hatt.not_popped (by rw [hw]; rfl) (by rw [hw]; rfl))
    refine ⟨⟨[job], ?_, ?_, ?_⟩, ?_, h.arrived_nodup⟩
    · simp [State.move, harr, hempty, hjobs]
    · intro w' job' hpop
      rcases update_cases hpop with ⟨-, heq⟩ | ⟨-, hold⟩
      · cases heq; rfl
      · exact absurd hold (hatt.not_popped (by rw [hw]; rfl) (by rw [hw]; rfl) w' job')
    · intro hno
      exact absurd (Function.update_self ..) (hno w job)
    · intro b hb
      have hb' := h.past_of_arrived b hb
      have hbw : b ≠ w := fun hbw => by rw [hbw, hw] at hb'; cases hb'
      simpa only [State.move, Function.update_of_ne hbw] using hb'
  | start w job hw =>
    obtain ⟨hand, harr, hsome, -⟩ := h.account
    have hhand : hand = [job] := hsome w job hw
    have hother : ∀ w' job', Function.update s.phase w (.running job) w' ≠ .popped job' := by
      intro w' job' hpop
      rcases update_cases hpop with ⟨-, heq⟩ | ⟨hne, hold⟩
      · cases heq
      · exact hne (hatt.worker_unique w' w (by rw [hold]; rfl) (by rw [hw]; rfl))
    refine ⟨⟨[], ?_, fun w' job' hpop => absurd hpop (hother w' job'), fun _ => rfl⟩, ?_,
      h.arrived_nodup⟩
    · simp [State.move, harr, hhand]
    · intro b hb
      have hb' := h.past_of_arrived b hb
      have hbw : b ≠ w := fun hbw => by rw [hbw, hw] at hb'; cases hb'
      simpa only [State.move, Function.update_of_ne hbw] using hb'

end Concurrency.SerialQueue
