import UnifyAir.Manager.Delivery

/-!
# UnifyAir — a panicking closure and its context queue

A closure that panics unwinds the `process_queue` task it runs in: the guard of the `Mutex`
goes, the task is over, and nobody has stored `false` in `processor_active`. Whoever pushes
next reads `true` and leaves the spawning to a processor that no longer exists, so the queue
never runs anything again. The safety comment in `schedule_and_wait` looks at the call whose
closure panics, not at those after it.

* **`not_wedged_iff_no_panic`** — in every state of a run the flag stands for a live
  processor exactly when no closure of the run panics.
* **`wedged_after_panic`** — the next call on the context, whose closure stays on the list.
-/

namespace UnifyAir.Manager

open Concurrency

variable {K T O : Type}

/-- No queue is wedged: on an unlocked queue the flag is up only for a live processor; a call
that is about to look at the flag and finds it up has a live processor to rely on; and what is
on an unlocked list has a live processor to run it. -/
structure NotWedged (s : State K T O) : Prop where
  processor_of_active : ∀ q, s.lock q = none → s.processorActive q = true →
    ∃ p, (s.procs p).liveOn q = true
  processor_of_load : ∀ t q rx, s.calls t = .pushLoad q rx → s.processorActive q = true →
    ∃ p, (s.procs p).liveOn q = true
  processor_of_future : ∀ q, s.lock q = none → s.queue q ≠ [] →
    ∃ p, (s.procs p).liveOn q = true

/-- An attended queue is not wedged. The three parts are three ways to need a processor, and an
attended queue has one in each of them. -/
theorem notWedged_of_attended {s : State K T O} (h : ∀ q, SerialQueue.Attended (view s q)) :
    NotWedged s := by
  refine ⟨fun q hfree hact => ?_, fun t q rx hc hact => ?_, fun q hfree hqueue => ?_⟩
  · -- nobody is between the flag and the spawn while the queue is unlocked
    have hspawn : ∀ a, (view s q).phase a ≠ .spawning := fun a ha =>
      absurd ((h q).outside_of_free hfree a) (by simp [ha, SerialQueue.Phase.inside])
    obtain ⟨w, hw⟩ := (h q).worker_of_active hspawn hact
    exact exists_liveOn hw
  · -- the call itself has the lock, so nobody else is about to spawn
    have hphase : (view s q).phase (.caller t) = .appended := by
      simp [view, State.phases, hc, Call.phase]
    have hspawn : ∀ a, (view s q).phase a ≠ .spawning := by
      intro a ha
      have hsame := (h q).sole (a := a) (b := .caller t) (by rw [ha]; rfl) (by rw [hphase]; rfl)
      rw [hsame, hphase] at ha
      cases ha
    obtain ⟨w, hw⟩ := (h q).worker_of_active hspawn hact
    exact exists_liveOn hw
  · obtain ⟨w, hw⟩ := (h q).worker_of_job hfree (by simpa [view] using hqueue)
    exact exists_liveOn hw

/-- A panic leaves the flag up, the queue unlocked, and nobody to serve it. The processor that went
was the only one. -/
theorem wedged_of_panic {s : State K T O} {p : ProcId} {q : QueueId} {f : QueuedFuture}
    (h : SerialQueue.Attended (view s q)) (hp : s.procs p = .running q f) :
    ¬ NotWedged (s.panicClosure p q f) := by
  intro hno
  have hlive : (s.procs p).liveOn q = true := by simp [hp, Proc.liveOn]
  have hactive : s.processorActive q = true :=
    h.active_of_serving (.processor p) (by simp [view, State.phases, hp, Proc.phase,
      SerialQueue.Phase.serving])
  obtain ⟨p', hp'⟩ := hno.processor_of_active q (Function.update_self ..) hactive
  -- a live processor in the new state was live before, next to the one that panicked
  rcases update_cases (rfl : (s.panicClosure p q f).procs p' = _) with ⟨-, hnew⟩ | ⟨hne, hold⟩
  · rw [← hnew] at hp'
    cases hp'
  · have hsame := h.worker_unique (.processor p') (.processor p)
      ((Proc.phase_live q _).trans (hold ▸ hp')) ((Proc.phase_live q _).trans hlive)
    exact hne (Holder.processor.inj hsame)

variable [DecidableEq K] [Identifiable T K]

/-- **Not wedged, exactly without panics.** In a run of the manager no queue is ever wedged if and
only if no closure of the run panics. The first panic wedges its queue, so the condition cannot be
weakened. -/
theorem not_wedged_iff_no_panic {as : List (Act K T O)} {s : State K T O}
    (run : (system K T O).Run as s) :
    (∀ pre t, pre <+: as → (system K T O).Run pre t → NotWedged t) ↔ ∀ p, Act.panic p ∉ as := by
  have hbreak : ∀ (as : List (Act K T O)) s a s', (system K T O).RunUnder NoPanic as s →
      (system K T O).step s a = some s' → NotWedged s' → NoPanic s a := by
    rintro as s a s' hunder hstep hno p rfl
    have hpanic : Step s (.panic p) s' := step_cases hstep
    cases hpanic with
    | @panic _ q f hp => exact wedged_of_panic (serial_of_run hunder q).1 hp hno
  rw [System.Run.always_iff (P := fun _ t => NotWedged t)
    (fun as s hunder => notWedged_of_attended fun q => (serial_of_run hunder q).1) hbreak run]
  constructor
  · intro hunder p hmem
    exact hunder.mem (Q := fun a : Act K T O => ∀ p, a ≠ .panic p)
      (fun _ _ hcond => hcond) _ hmem p rfl
  · intro hnone
    exact .of_mem run fun _ a ha p heq => hnone p (heq ▸ ha)

/-- The closure of a first call on the context with id 5 panics, and a second call comes. -/
def panicThenCall : List (Act Nat Nat Nat) :=
  [.addContext 0 5, .caller 0, .withContext 1 5] ++ List.replicate 8 (.caller 1) ++
    List.replicate 3 (.proc 0) ++ [.panic 0, .dropGuard 0, .withContext 2 5] ++
    List.replicate 6 (.caller 2)

/-- The second call waits, its closure is on an unlocked list, the flag is up, and the only
processor there has been is gone. -/
theorem wedged_after_panic :
    ∃ s, (system Nat Nat Nat).Run panicThenCall s ∧ s.procs 0 = .panicked 0 ∧ s.nextProc = 1 ∧
      s.lock 0 = none ∧ s.processorActive 0 = true ∧ s.queue 0 = [⟨2, 1⟩] ∧
      s.calls 2 = .awaitRx 0 1 ∧ ¬ NotWedged s := by
  let s := ((system Nat Nat Nat).exec panicThenCall).get (by decide)
  have hrun : (system Nat Nat Nat).Run panicThenCall s := System.run_of_exec (by simp [s])
  refine ⟨s, hrun, rfl, rfl, rfl, rfl, rfl, rfl, fun hno => ?_⟩
  obtain ⟨p, hp⟩ := hno.processor_of_active 0 rfl rfl
  by_cases h₀ : p = 0
  · subst h₀
    cases hp
  · rw [procs_fresh hrun p (Nat.pos_of_ne_zero h₀)] at hp
    cases hp

/-- A call on the context with id 5 whose closure completes. -/
def oneCall : List (Act Nat Nat Nat) :=
  [.addContext 0 5, .caller 0, .withContext 1 5] ++ List.replicate 8 (.caller 1) ++
    List.replicate 3 (.proc 0) ++ [.complete 0 7]

/-- The flag is up and the queue is unlocked while the closure runs, and the queue has its
processor. -/
theorem not_wedged_oneCall :
    ∃ s, (system Nat Nat Nat).Run oneCall s ∧ s.processorActive 0 = true ∧ NotWedged s := by
  let s := ((system Nat Nat Nat).exec oneCall).get (by decide)
  have hrun : (system Nat Nat Nat).Run oneCall s := System.run_of_exec (by simp [s])
  exact ⟨s, hrun, rfl, (not_wedged_iff_no_panic hrun).mpr (by simp [oneCall]) _ _
    (List.prefix_refl _) hrun⟩

end UnifyAir.Manager
