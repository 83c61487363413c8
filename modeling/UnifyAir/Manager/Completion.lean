import UnifyAir.Manager.Delivery

/-!
# UnifyAir — what a result says

A `with_context` that returns a result has had its closure run: it was pushed on a queue, and the
processor of the queue has started it and seen it complete.

* **`startedFirst_of_run`** — what has completed was started.
* **`started_of_returned`** — a result comes from the closure that was pushed.
-/

namespace UnifyAir.Manager

open Concurrency

variable {K T O : Type}

/-- A closure that runs, or has completed, was started. -/
structure StartedFirst (s : State K T O) : Prop where
  running : ∀ p q f, s.procs p = .running q f → Event.started q f.closure ∈ s.log
  completed : ∀ q t output, Event.completed q t output ∈ s.log → Event.started q t ∈ s.log

theorem StartedFirst.keep {s s' : State K T O} (h : StartedFirst s) (hlog : s'.log = s.log)
    (hprocs : ∀ p q f, s'.procs p = .running q f → s.procs p = .running q f) : StartedFirst s' := by
  refine ⟨fun p q f hp => ?_, fun q t output hmem => ?_⟩
  · rw [hlog]
    exact h.running p q f (hprocs p q f hp)
  · rw [hlog] at hmem ⊢
    exact h.completed q t output hmem

/-- A processor goes on to something else than a closure. -/
theorem StartedFirst.proc {s s' : State K T O} (h : StartedFirst s) {p : ProcId} {proc : Proc O}
    (hlog : s'.log = s.log) (hprocs : s'.procs = Function.update s.procs p proc)
    (hproc : ∀ q f, proc ≠ .running q f) : StartedFirst s' := by
  refine h.keep hlog fun p' q f hp => ?_
  rw [hprocs] at hp
  exact of_update (fun x : Proc O => x = .running q f) (fun hx => absurd hx (hproc q f)) hp

variable [DecidableEq K] [Identifiable T K]

/-- Every step keeps it. Only the start of a closure and its completion write these events, and the
second needs a closure that runs. -/
theorem StartedFirst.step {s s' : State K T O} {a : Act K T O} (h : StartedFirst s)
    (hstep : Step s a s') : StartedFirst s' := by
  have event {e : Event O} (hnew : ∀ q t output, e ≠ .completed q t output) {q : QueueId}
      {t : TaskId} {output : O} (hmem : Event.completed q t output ∈ s.log ++ [e]) :
      Event.started q t ∈ s.log ++ [e] := by
    rw [List.mem_append, List.mem_singleton] at hmem
    exact List.mem_append_left _
      (h.completed q t output (hmem.resolve_right fun heq => hnew q t output heq.symm))
  cases hstep with
  | withContext | addContext | changeId | read | schedule | lockCaller | load | storeActive
  | unlockCaller | receive | addFailed | addStored | changeMissing | changeRemoved | changeConflict
  | changeStored | restoreFailed | restored | drop | mutate | dropGuard =>
    exact h.keep rfl fun _ _ _ hp => hp
  | spawn | lockProcessor | stop | pop | send | again | exit | panic =>
    exact h.proc rfl rfl fun _ _ heq => by cases heq
  | @pushBack t q rx hc =>
    refine ⟨fun p q' f hp => List.mem_append_left _ (h.running p q' f hp), fun q' t' output hmem => ?_⟩
    exact event (fun _ _ _ heq => by cases heq) hmem
  | @start p q f hp hguard =>
    refine ⟨fun p' q' f' hp' => ?_, fun q' t' output hmem => ?_⟩
    · rcases update_cases hp' with ⟨-, heq⟩ | ⟨-, hold⟩
      · cases heq
        exact List.mem_append_right _ (List.mem_singleton_self _)
      · exact List.mem_append_left _ (h.running p' q' f' hold)
    · exact event (fun _ _ _ heq => by cases heq) hmem
  -- what completes was running, so it was started
  | @complete p q f output hp =>
    refine ⟨fun p' q' f' hp' => ?_, fun q' t' output' hmem => ?_⟩
    · rcases update_cases hp' with ⟨-, heq⟩ | ⟨-, hold⟩
      · cases heq
      · exact List.mem_append_left _ (h.running p' q' f' hold)
    · rcases List.mem_append.mp hmem with hold | hnew
      · exact List.mem_append_left _ (h.completed q' t' output' hold)
      · cases List.mem_singleton.mp hnew
        exact List.mem_append_left _ (h.running p q f hp)

theorem startedFirst_of_run {as : List (Act K T O)} {s : State K T O}
    (run : (system K T O).Run as s) : StartedFirst s := by
  refine run.invariant (P := StartedFirst) ⟨?_, ?_⟩ fun _ _ _ _ _ h _ hstep =>
    h.step (step_cases hstep)
  · intro p q f hp
    cases hp
  · intro q t output hmem
    cases hmem

/-- **Who has a result has been served:** the closure was pushed on a queue, and started there. The
result is an output of the closure, which has completed and so was started; and what is started was
appended. -/
theorem started_of_returned {as : List (Act K T O)} {s : State K T O}
    (run : (system K T O).RunUnder NoPanic as s) {t : TaskId} {output : O}
    (ht : s.calls t = .withReturned (.ok output)) :
    ∃ q, Event.appended q t ∈ s.log ∧ t ∈ s.started q := by
  obtain ⟨q, hcompleted⟩ := (delivery_of_run run.run).returned t output ht
  have hstarted : t ∈ s.started q :=
    List.mem_filterMap.mpr ⟨_, (startedFirst_of_run run.run).completed q t output hcompleted,
      if_pos rfl⟩
  obtain ⟨hand, happ, -⟩ := accounted_of_ordered (serial_of_run run q).2
  refine ⟨q, mem_appended.mp ?_, hstarted⟩
  rw [happ]
  exact List.mem_append_left _ (List.mem_append_left _ hstarted)

end UnifyAir.Manager
