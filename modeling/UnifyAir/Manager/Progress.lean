import UnifyAir.Concurrency.Progress
import UnifyAir.Manager.Calls
import UnifyAir.Manager.Delivery

/-!
# UnifyAir — calls of a `ContextManager` return

A `with_context` waits for the `Mutex` of a queue, and then for the processor of the queue to run
its closure. Neither waits for ever: who has the `Mutex` gives it back, a list with futures on it has
a processor, and the future of a waiting call is on the list or in the hands of the processor until
its channel has the output.

* **`attends_of_run`** — nobody waits on a channel that nobody will send on.
* **`over_of_stuck`** — no deadlock.
* **`moves_le`** — the steps of calls and processors.
* **`all_over`** — both: every run can be brought to its end.
-/

namespace UnifyAir.Manager

open Concurrency
open Concurrency.SerialQueue (Phase Attended)

variable {K T O : Type}

/-! ## Who waits on a channel

A call that waits needs somebody who will send. Its future is on a list or in hand, or its channel
has been written; no step breaks this, a panic included, since that closes the channel. -/

/-- The channel of a call that has pushed its future. -/
def Call.pushed : Call K T O → Option ChanId
  | .pushLoad _ rx | .pushStore _ rx | .pushSpawn _ rx | .pushUnlock _ rx | .awaitRx _ rx => some rx
  | _ => none

/-- Who has pushed a future has its output, or the future is on a list or in hand. -/
def Attends (s : State K T O) : Prop :=
  ∀ t rx, (s.calls t).pushed = some rx → s.Pending ⟨t, rx⟩ ∨ s.chans rx ≠ .empty

/-- A step that keeps what is pending, or sends on its channel, leaves nobody waiting in vain. -/
theorem Attends.keep {s s' : State K T O} (h : Attends s)
    (hcalls : ∀ t rx, (s'.calls t).pushed = some rx → (s.calls t).pushed = some rx)
    (hpending : ∀ f, s.Pending f → s'.Pending f ∨ s'.chans f.tx ≠ .empty)
    (hchans : ∀ rx, s.chans rx ≠ .empty → s'.chans rx ≠ .empty) : Attends s' := by
  intro t rx hrx
  rcases h t rx (hcalls t rx hrx) with hpend | hsent
  · exact hpending _ hpend
  · exact .inr (hchans rx hsent)

theorem Attends.call {s s' : State K T O} (h : Attends s) {t : TaskId} {c : Call K T O}
    (hcalls : s'.calls = Function.update s.calls t c)
    (hc : ∀ rx, c.pushed = some rx → (s.calls t).pushed = some rx) (hqueue : s'.queue = s.queue)
    (hprocs : s'.procs = s.procs) (hchans : s'.chans = s.chans) : Attends s' := by
  refine h.keep (fun t' rx hx => ?_) (fun f hpend => .inl ?_) fun rx hsent => ?_
  · rw [hcalls] at hx
    exact of_update (fun c : Call K T O => c.pushed = some rx) (hc rx) hx
  · unfold State.Pending
    rw [hqueue, hprocs]
    exact hpend
  · rw [hchans]
    exact hsent

/-- A processor moves: what it had in hand it still has, or it was sent. -/
theorem Attends.proc {s s' : State K T O} (h : Attends s) {p : ProcId} {proc : Proc O}
    (hcalls : s'.calls = s.calls) (hprocs : s'.procs = Function.update s.procs p proc)
    (hqueue : ∀ q f, f ∈ s.queue q → f ∈ s'.queue q ∨ proc.future = some f)
    (hfuture : ∀ f, (s.procs p).future = some f → proc.future = some f ∨ s'.chans f.tx ≠ .empty)
    (hchans : ∀ rx, s.chans rx ≠ .empty → s'.chans rx ≠ .empty) : Attends s' := by
  have hnew {f : QueuedFuture} (hp : proc.future = some f) : s'.Pending f :=
    .inr ⟨p, by rw [hprocs, Function.update_self]; exact hp⟩
  refine h.keep (fun t rx hx => hcalls ▸ hx) (fun f hpend => ?_) hchans
  -- a future is on a list, or in the hand of a processor, maybe of this one
  rcases hpend with ⟨q, hlist⟩ | ⟨p', hp'⟩
  · exact .inl ((hqueue q f hlist).elim (fun hmem => .inl ⟨q, hmem⟩) hnew)
  · by_cases hpp : p' = p
    · subst hpp
      exact (hfuture f hp').imp_left hnew
    · refine .inl (.inr ⟨p', ?_⟩)
      rw [hprocs, Function.update_of_ne hpp]
      exact hp'

theorem Attends.sent {s : State K T O} {ch : ChanId} {chan : Chan O} (hchan : chan ≠ .empty)
    (rx : ChanId) (h : s.chans rx ≠ .empty) : Function.update s.chans ch chan rx ≠ .empty :=
  to_update (· ≠ Chan.empty) (fun _ => hchan) h

theorem loadActive_pushed (s : State K T O) (q : QueueId) (rx : ChanId) :
    (s.loadActive q rx : Call K T O).pushed = some rx := by
  unfold State.loadActive
  split <;> rfl

theorem readQueue_pushed (s : State K T O) (id : K) : (s.readQueue id).pushed = none := by
  unfold State.readQueue
  split <;> rfl

theorem receive_pushed {s : State K T O} {rx : ChanId} {c : Call K T O}
    (h : s.receive rx = some c) : c.pushed = none := by
  unfold State.receive at h
  split at h <;> cases h <;> rfl

/-- A call that pushes its future finds it on the list. -/
theorem Attends.pushBack {s : State K T O} (h : Attends s) (t : TaskId) (q : QueueId)
    (rx : ChanId) : Attends (s.pushBack t q rx) := by
  have hqueue (q' : QueueId) : (s.pushBack t q rx).queue q' =
      if q' = q then s.queue q ++ [⟨t, rx⟩] else s.queue q' := Function.update_apply ..
  have hold : ∀ f, s.Pending f → (s.pushBack t q rx).Pending f := by
    rintro f (⟨q', hlist⟩ | hproc)
    · refine .inl ⟨q', ?_⟩
      rw [hqueue]
      split
      · next hqq => exact List.mem_append_left _ (hqq ▸ hlist)
      · exact hlist
    · exact .inr hproc
  intro t' rx' hrx'
  -- the caller itself attends to the future it has pushed
  rcases update_cases (rfl : (s.pushBack t q rx).calls t' = _) with ⟨rfl, hnew⟩ | ⟨-, hcalls⟩
  · rw [← hnew] at hrx'
    cases hrx'
    refine .inl (.inl ⟨q, ?_⟩)
    rw [hqueue, if_pos rfl]
    exact List.mem_append_right _ (List.mem_singleton_self _)
  · exact (h t' rx' (hcalls ▸ hrx')).imp_left (hold _)

/-! ## What is left

The count behind the bound. A call pays in advance for its closure and for the processor that it may
spawn, so every step of a processor is paid for by some call. -/

/-- A call is made. -/
def Act.isCall : Act K T O → Bool
  | .withContext _ _ | .addContext _ _ | .changeId _ _ _ => true
  | _ => false

/-- A call or a processor moves, or a write guard goes. -/
def Act.isMove : Act K T O → Bool
  | .caller _ | .drop _ | .proc _ | .complete _ _ | .panic _ | .dropGuard _ => true
  | _ => false

/-- The call that an action moves. -/
def Act.task : Act K T O → Option TaskId
  | .withContext t _ | .addContext t _ | .changeId t _ _ | .caller t | .drop t => some t
  | _ => none

/-- The queue whose write guard an action lets go of. -/
def Act.unguards : Act K T O → Option QueueId
  | .dropGuard q => some q
  | _ => none

/-- What a call has left at most: its own steps, 7 for its future until it is pushed, and 3 for a
processor until it is spawned. -/
def Call.left : Call K T O → Nat
  | .withRead _ => 19
  | .withSchedule _ => 18
  | .pushLock _ _ => 17
  | .pushBack _ _ => 16
  | .pushLoad _ _ => 8
  | .pushStore _ _ => 7
  | .pushSpawn _ _ => 6
  | .pushUnlock _ _ => 2
  | .awaitRx _ _ | .addInsert _ _ | .changeRestore _ _ _ => 1
  | .changeRemove _ _ => 3
  | .changeInsert _ _ _ => 2
  | _ => 0

/-- What a processor has left: a closure it starts is paid for by its call. -/
def Proc.left : Proc O → Nat
  | .running _ _ => 6
  | .sending _ _ _ => 5
  | .iterEnd _ => 4
  | .lockWait _ => 3
  | .locked _ => 2
  | .popped _ _ | .exiting _ => 1
  | .unspawned | .finished _ | .panicked _ => 0

def Event.append : Event O → Option (QueueId × TaskId)
  | .appended q t => some (q, t)
  | _ => none

def Event.start : Event O → Option (QueueId × TaskId)
  | .started q t => some (q, t)
  | _ => none

/-- How many futures have been pushed, on all queues. -/
def State.pushes (s : State K T O) : Nat := (s.log.filterMap Event.append).length

/-- How many closures have been started. -/
def State.starts (s : State K T O) : Nat := (s.log.filterMap Event.start).length

/-- What calls, processors and write guards have left, with the futures pushed so far. -/
def State.left (tasks : Finset TaskId) (qs : Finset QueueId) (s : State K T O) : Nat :=
  total tasks Call.left s.calls + total (Finset.range s.nextProc) Proc.left s.procs +
    total qs Bool.toNat s.guarded + 7 * s.pushes

/-- A step costs no more than what is given for a call that begins and a closure that starts. -/
def Spends (tasks : Finset TaskId) (qs : Finset QueueId) (moves calls : Nat)
    (s s' : State K T O) : Prop :=
  moves + s'.left tasks qs + 7 * s.starts ≤ s.left tasks qs + 7 * s'.starts + 19 * calls

section Spends

variable {tasks : Finset TaskId} {qs : Finset QueueId} {moves calls : Nat} {s s' : State K T O}

/-- A call moves, and what it has left covers the step. -/
theorem Spends.call {t : TaskId} {c : Call K T O} (ht : t ∈ tasks)
    (hcalls : s'.calls = Function.update s.calls t c) (hprocs : s'.procs = s.procs)
    (hnext : s'.nextProc = s.nextProc) (hguarded : s'.guarded = s.guarded) (hlog : s'.log = s.log)
    (hleft : moves + c.left ≤ (s.calls t).left + 19 * calls) : Spends tasks qs moves calls s s' := by
  have htotal := total_update Call.left s.calls c ht
  unfold Spends State.left State.pushes State.starts
  rw [hcalls, hprocs, hnext, hguarded, hlog]
  omega

/-- A processor moves, and what it has left covers the step. -/
theorem Spends.proc {p : ProcId} {proc : Proc O} (hp : p < s.nextProc)
    (hcalls : s'.calls = s.calls) (hprocs : s'.procs = Function.update s.procs p proc)
    (hnext : s'.nextProc = s.nextProc) (hguarded : s'.guarded = s.guarded)
    (hpushes : s'.pushes = s.pushes) (hstarts : s'.starts = s.starts)
    (hleft : moves + proc.left ≤ (s.procs p).left) : Spends tasks qs moves calls s s' := by
  have htotal := total_update Proc.left s.procs proc
    (Finset.mem_range.mpr hp)
  unfold Spends State.left
  rw [hcalls, hprocs, hnext, hguarded, hpushes, hstarts]
  omega

end Spends

/-- A call that finds the flag up has less left than one that has to spawn. -/
theorem loadActive_left (s : State K T O) (q : QueueId) (rx : ChanId) :
    (s.loadActive q rx : Call K T O).left ≤ 7 := by
  unfold State.loadActive
  split
  · exact Nat.le_add_left 2 5
  · exact Nat.le_refl _

/-- A call whose id is not in the map is over. -/
theorem readQueue_left (s : State K T O) (id : K) : (s.readQueue id).left ≤ 18 := by
  unfold State.readQueue
  split
  · exact Nat.le_refl _
  · exact Nat.zero_le _

theorem receive_left {s : State K T O} {rx : ChanId} {c : Call K T O}
    (h : s.receive rx = some c) : c.left = 0 := by
  unfold State.receive at h
  split at h <;> cases h <;> rfl

/-- A call that can be dropped has a step left to pay for it. -/
theorem Call.left_of_atAwait {c : Call K T O} (h : c.atAwait = true) : 1 ≤ c.left := by
  cases c with
  | withRead | pushLock | awaitRx | addInsert | changeRemove | changeInsert | changeRestore =>
    exact Nat.le_add_left 1 _
  | idle | withSchedule | pushBack | pushLoad | pushStore | pushSpawn | pushUnlock | withReturned
  | recvPanicked | addReturned | addPanicked | changeReturned | dropped => cases h

variable [DecidableEq K] [Identifiable T K]

/-! ## Whole runs

Two invariants that the end of a run rests on: nobody waits in vain, and no channel is closed while
no closure panics. -/

/-- Every step keeps it. The steps of a processor are the ones to look at: they take futures off the
list and use senders up. -/
theorem Attends.step {s s' : State K T O} {a : Act K T O} (hfresh : s.procs s.nextProc = .unspawned)
    (h : Attends s) (hstep : Step s a s') : Attends s' := by
  cases hstep with
  | withContext | addContext | changeId | addStored | changeMissing | changeRemoved
  | changeConflict | changeStored | restoreFailed | restored | drop | schedule | lockCaller =>
    exact h.call rfl nofun rfl rfl rfl
  | read hc => exact h.call rfl (by rw [readQueue_pushed]; nofun) rfl rfl rfl
  | addFailed hc =>
    rw [insertFailed_eq]
    exact h.call rfl nofun rfl rfl rfl
  | receive hc hrecv => exact h.call rfl (by rw [receive_pushed hrecv]; nofun) rfl rfl rfl
  | load hc =>
    exact h.call rfl (fun x hx => by rw [hc]; exact (loadActive_pushed ..).symm.trans hx) rfl rfl rfl
  | storeActive hc | unlockCaller hc => exact h.call rfl (by rw [hc]; exact fun _ hx => hx) rfl rfl rfl
  | @pushBack t q rx hc => exact h.pushBack t q rx
  | @spawn t q rx hc =>
    -- the new processor has nothing in hand, nor had the place where it is
    have hspawned : Attends (s.setProc s.nextProc (.lockWait q)) :=
      h.proc rfl rfl (fun _ _ hf => .inl hf) (by rw [hfresh]; nofun) fun _ hrx => hrx
    have hpushed : ∀ rx', some rx = some rx' → (s.calls t).pushed = some rx' := by
      rw [hc]
      exact fun _ hx => hx
    exact hspawned.call (c := .pushUnlock q rx) rfl hpushed rfl rfl rfl
  -- a processor without a future in hand
  | lockProcessor hp | stop hp | again hp | exit hp =>
    exact h.proc rfl rfl (fun _ _ hf => .inl hf) (by rw [hp]; nofun) fun _ hrx => hrx
  -- the first future goes from the list into the hand
  | @pop p q f rest hp hqueue =>
    refine h.proc rfl rfl (fun q' g hg => ?_) (by rw [hp]; nofun) fun _ hrx => hrx
    by_cases hqq : q' = q
    · subst hqq
      rw [hqueue, List.mem_cons] at hg
      rcases hg with rfl | hg
      · exact .inr rfl
      · left
        show g ∈ Function.update s.queue q' rest q'
        rw [Function.update_self]
        exact hg
    · left
      show g ∈ Function.update s.queue q rest q'
      rw [Function.update_of_ne hqq]
      exact hg
  | start hp | complete hp =>
    exact h.proc rfl rfl (fun _ _ hf => .inl hf) (by rw [hp]; exact fun _ hf => .inl hf)
      fun _ hrx => hrx
  -- now its channel has something, and its caller need not attend any more
  | @send p q f output hp =>
    refine h.proc rfl rfl (fun _ _ hf => .inl hf) (fun g hg => .inr ?_) (Attends.sent nofun)
    rw [hp] at hg
    cases hg
    show Function.update s.chans f.tx _ f.tx ≠ .empty
    rw [Function.update_self]
    nofun
  | @panic p q f hp =>
    refine h.proc rfl rfl (fun _ _ hf => .inl hf) (fun g hg => .inr ?_) (Attends.sent nofun)
    rw [hp] at hg
    cases hg
    show Function.update s.chans f.tx _ f.tx ≠ .empty
    rw [Function.update_self]
    nofun
  | mutate | dropGuard => exact h

/-- In every run, panics included, who waits on a channel has a future that is pending, or the
channel has what its sender left. -/
theorem attends_of_run {as : List (Act K T O)} {s : State K T O} (run : (system K T O).Run as s) :
    Attends s := by
  refine run.invariant (P := Attends) (fun _ _ hrx => by cases hrx) fun as s a s' run h _ hstep => ?_
  exact h.step (procs_fresh run s.nextProc (Nat.le_refl _)) (step_cases hstep)

/-- No sender goes without a value, and no receiver panics over one. -/
def NoClosed (s : State K T O) : Prop :=
  (∀ ch, s.chans ch ≠ .closed) ∧ ∀ t, s.calls t ≠ .recvPanicked

/-- Only a panic closes a channel. So in a run without one no caller finds its channel closed, and
none panics on that. -/
theorem NoClosed.step {s s' : State K T O} {a : Act K T O} (h : NoClosed s) (hpanic : NoPanic s a)
    (hstep : Step s a s') : NoClosed s' := by
  have moved {t : TaskId} {c : Call K T O} (hc : c ≠ .recvPanicked) (t' : TaskId) :
      Function.update s.calls t c t' ≠ .recvPanicked :=
    to_update (· ≠ Call.recvPanicked) (fun _ => hc) (h.2 t')
  cases hstep with
  | withContext | addContext | changeId | addStored | changeMissing | changeRemoved
  | changeConflict | changeStored | restoreFailed | restored | drop | schedule | lockCaller
  | pushBack | storeActive | spawn | unlockCaller => exact ⟨h.1, moved (by intro hc; cases hc)⟩
  -- reading, loading and receiving may end a call, but not with a panic
  | @read t id =>
    refine ⟨h.1, moved ?_⟩
    unfold State.readQueue
    split <;> exact fun hc => by cases hc
  | @load t q rx =>
    refine ⟨h.1, moved ?_⟩
    unfold State.loadActive
    split <;> exact fun hc => by cases hc
  | addFailed =>
    rw [insertFailed_eq]
    exact ⟨h.1, moved (by intro hc; cases hc)⟩
  | @receive t q rx c hc hrecv =>
    refine ⟨h.1, moved ?_⟩
    rintro rfl
    unfold State.receive at hrecv
    split at hrecv
    · cases hrecv
    · cases hrecv
    · next hclosed => exact h.1 rx hclosed
  | lockProcessor | stop | again | exit | pop | start | complete | mutate | dropGuard => exact h
  -- a channel is closed by a panic only, what is sent does not close it
  | @send p q f output =>
    exact ⟨fun ch => to_update (· ≠ Chan.closed) (fun _ hc => by cases hc) (h.1 ch), h.2⟩
  | @panic p => exact absurd rfl (hpanic p)

theorem noClosed_of_run {as : List (Act K T O)} {s : State K T O}
    (run : (system K T O).RunUnder NoPanic as s) : NoClosed s := by
  refine run.invariant (P := NoClosed) ⟨?_, ?_⟩ fun _ _ _ _ _ h hpanic hstep =>
    h.step hpanic (step_cases hstep)
  · intro ch hc
    cases hc
  · intro t hc
    cases hc

/-! ## No deadlock

If nothing can move, locks are free, hence processors idle, hence lists empty, hence nobody waits:
in this order, each from the one before. -/

/-- The call has not been made, or it has ended. -/
def Call.isOver : Call K T O → Bool
  | .idle | .withReturned _ | .recvPanicked | .addReturned _ | .addPanicked | .changeReturned _
  | .dropped => true
  | _ => false

omit [Identifiable T K] in
/-- Whoever has the `Mutex` of a queue goes on: a caller between its `lock` and the end of
`push_future`, a processor when its closure has completed. -/
theorem free_of_stuck {s : State K T O} {q : QueueId} (h : Attended (view s q))
    (hcaller : ∀ t, s.callStep t = none) (hproc : ∀ p, s.procStep p = none)
    (hrunning : ∀ p q f, s.procs p ≠ .running q f) (hguard : ∀ q, s.guarded q = false) :
    s.lock q = none := by
  -- who has the lock could move, or has a closure that runs
  cases hlock : s.lock q with
  | none => rfl
  | some w =>
    exfalso
    have hin := (h.inside_iff w).mpr hlock
    cases w with
    | caller t =>
      have hstep := hcaller t
      change ((s.calls t).phase q).inside = true at hin
      unfold State.callStep at hstep
      cases hc : s.calls t with
      | pushBack | pushLoad | pushStore | pushSpawn | pushUnlock => simp [hc] at hstep
      | awaitRx q' => by_cases hq : q' = q <;> simp [hc, Call.phase, hq, Phase.inside] at hin
      | idle | withRead | withSchedule | pushLock | withReturned | recvPanicked | addInsert
      | addReturned | addPanicked | changeRemove | changeInsert | changeRestore | changeReturned
      | dropped => simp [hc, Call.phase, Phase.inside] at hin
    | processor p =>
      have hstep := hproc p
      change ((s.procs p).phase q).inside = true at hin
      unfold State.procStep at hstep
      cases hp : s.procs p with
      | popped => simp [hp, hguard] at hstep
      | locked | sending | iterEnd | exiting => simp [hp] at hstep
      | running q' f => exact hrunning p q' f hp
      | unspawned => simp [hp, Proc.phase, Phase.inside] at hin
      | lockWait q' | finished q' | panicked q' =>
        by_cases hq : q' = q <;> simp [hp, Proc.phase, hq, Phase.inside] at hin

omit [DecidableEq K] [Identifiable T K] in
/-- A processor that does not move has nothing in hand and is live on no queue. -/
theorem idle_of_stuck {s : State K T O} {p : ProcId} (hproc : s.procStep p = none)
    (hrunning : ∀ q f, s.procs p ≠ .running q f) (hguard : ∀ q, s.guarded q = false)
    (hfree : ∀ q, s.lock q = none) :
    (s.procs p).future = none ∧ ∀ q, (s.procs p).liveOn q = false := by
  unfold State.procStep at hproc
  cases hp : s.procs p with
  | running q f => exact absurd hp (hrunning q f)
  | lockWait | popped => simp [hp, hfree, hguard] at hproc
  | locked | sending | iterEnd | exiting => simp [hp] at hproc
  | unspawned | finished | panicked => exact ⟨rfl, fun _ => rfl⟩

/-- **No deadlock.** In a run without panics, if no call and no processor can move, no closure runs
and no write guard is alive, then every call has ended, and every queue is empty and free. -/
theorem over_of_stuck {as : List (Act K T O)} {s : State K T O}
    (run : (system K T O).RunUnder NoPanic as s) (hcaller : ∀ t, s.callStep t = none)
    (hproc : ∀ p, s.procStep p = none) (hrunning : ∀ p q f, s.procs p ≠ .running q f)
    (hguard : ∀ q, s.guarded q = false) :
    (∀ t, (s.calls t).isOver = true) ∧ ∀ q, s.queue q = [] ∧ s.lock q = none := by
  have hserial (q : QueueId) : Attended (view s q) := (serial_of_run run q).1
  -- the locks first
  have hfree (q : QueueId) : s.lock q = none :=
    free_of_stuck (hserial q) hcaller hproc hrunning hguard
  have hidle (p : ProcId) := idle_of_stuck (hproc p) (hrunning p) hguard hfree
  have hempty (q : QueueId) : s.queue q = [] := by
    by_contra hqueue
    obtain ⟨w, hw⟩ := (hserial q).worker_of_job (hfree q) (by simpa [view] using hqueue)
    obtain ⟨p, hp⟩ := exists_liveOn hw
    rw [(hidle p).2 q] at hp
    cases hp
  refine ⟨fun t => ?_, fun q => ⟨hempty q, hfree q⟩⟩
  have hstep := hcaller t
  unfold State.callStep at hstep
  cases hc : s.calls t with
  | idle | withReturned | recvPanicked | addReturned | addPanicked | changeReturned | dropped => rfl
  | pushLock => simp [hc, hfree] at hstep
  | withRead | withSchedule | pushBack | pushLoad | pushStore | pushSpawn | pushUnlock | addInsert
  | changeRemove | changeInsert | changeRestore => simp [hc] at hstep
  | awaitRx q rx =>
    -- its future is nowhere, so its channel has something
    rcases attends_of_run run.run t rx (by rw [hc]; rfl) with (⟨q', hmem⟩ | ⟨p, hp⟩) | hsent
    · rw [hempty q'] at hmem
      cases hmem
    · rw [(hidle p).1] at hp
      cases hp
    · cases hchan : s.chans rx with
      | empty => exact absurd hchan hsent
      | sent | closed => simp [hc, State.receive, hchan] at hstep

/-! ## The steps of a run

The count above along a run. What closures cost is in it twice, once for each push and once for each
start, and there are no more starts than pushes. -/

/-- Every step spends what it costs. The constants in `Call.left` and `Proc.left` are what these
cases need: from the last step of a processor backwards, each place has one more than the next. -/
theorem Step.spends {s s' : State K T O} {a : Act K T O} {tasks : Finset TaskId}
    {qs : Finset QueueId} (htask : ∀ t, a.task = some t → t ∈ tasks)
    (hqueue : ∀ q, a.unguards = some q → q ∈ qs)
    (hfresh : ∀ p, s.nextProc ≤ p → s.procs p = .unspawned) (hstep : Step s a s') :
    Spends tasks qs a.isMove.toNat a.isCall.toNat s s' := by
  have spawned {p : ProcId} {proc : Proc O} (hp : s.procs p = proc) (hproc : 0 < proc.left) :
      p < s.nextProc := by
    by_contra hle
    rw [← hp, hfresh p (Nat.not_lt.mp hle)] at hproc
    exact Nat.lt_irrefl _ hproc
  -- a call that begins brings what it may spend, every other step spends
  cases hstep with
  | withContext hc | addContext hc | changeId hc =>
    refine .call (htask _ rfl) rfl rfl rfl rfl rfl ?_
    rw [hc]
    simp [Act.isMove, Act.isCall, Call.left]
  | lockCaller hc | storeActive hc | unlockCaller hc | schedule hc | addStored hc | changeMissing hc
  | changeRemoved hc | changeConflict hc | changeStored hc | restoreFailed hc | restored hc =>
    refine .call (htask _ rfl) rfl rfl rfl rfl rfl ?_
    rw [hc]
    simp [Act.isMove, Act.isCall, Call.left]
  | read hc =>
    refine .call (htask _ rfl) rfl rfl rfl rfl rfl ?_
    rw [hc]
    exact Nat.add_le_add_left (readQueue_left ..) 1
  | load hc =>
    refine .call (htask _ rfl) rfl rfl rfl rfl rfl ?_
    rw [hc]
    exact Nat.add_le_add_left (loadActive_left ..) 1
  | receive hc hrecv =>
    refine .call (htask _ rfl) rfl rfl rfl rfl rfl ?_
    rw [hc, receive_left hrecv]
    exact Nat.le_refl 1
  | addFailed hc =>
    rw [insertFailed_eq]
    refine .call (htask _ rfl) rfl rfl rfl rfl rfl ?_
    rw [hc]
    exact Nat.le_refl 1
  | drop hc =>
    exact .call (htask _ rfl) rfl rfl rfl rfl rfl
      (show 1 + 0 ≤ _ from Nat.le_add_right_of_le (Call.left_of_atAwait hc))
  -- a future on a list stands for seven more steps of its processor
  | @pushBack t q rx hc =>
    have htotal := total_update Call.left s.calls (.pushLoad q rx)
      (htask t rfl)
    rw [hc] at htotal
    simp [Spends, State.left, State.pushBack, State.pushes, State.starts, Event.append, Event.start,
      Act.isMove, Act.isCall, Call.left] at htotal ⊢
    omega
  -- who spawns a processor pays for its first steps
  | @spawn t q rx hc =>
    have htotal := total_update Call.left s.calls (.pushUnlock q rx)
      (htask t rfl)
    have hspawned := total_range_succ Proc.left s.procs s.nextProc (.lockWait q)
    rw [hc] at htotal
    simp only [Call.left, Proc.left] at htotal hspawned
    simp only [Spends, State.left, State.spawnProcessor, State.pushes, State.starts, Act.isMove,
      Act.isCall, Bool.toNat_true, Bool.toNat_false, hspawned]
    omega
  | lockProcessor hp | stop hp | again hp | exit hp | pop hp | send hp | panic hp =>
    refine .proc (spawned hp (Nat.succ_pos _)) rfl rfl rfl rfl rfl rfl ?_
    rw [hp]
    simp [Act.isMove, Proc.left]
  | complete hp =>
    refine .proc (spawned hp (Nat.succ_pos _)) rfl rfl rfl rfl ?_ ?_ ?_
    · simp [State.completeClosure, State.pushes, Event.append]
    · simp [State.completeClosure, State.starts, Event.start]
    · rw [hp]
      simp [Act.isMove, Proc.left]
  | @start p q f hp hguard =>
    have htotal := total_update Proc.left s.procs (.running q f)
      (Finset.mem_range.mpr (spawned hp (Nat.succ_pos _)))
    have hguarded : total qs Bool.toNat (Function.update s.guarded q true) ≤ _ + 1 :=
      total_update_le ..
    rw [hp] at htotal
    simp [Spends, State.left, State.startClosure, State.pushes, State.starts, Event.append,
      Event.start, Act.isMove, Act.isCall, Proc.left, List.filterMap_cons] at htotal hguarded ⊢
    omega
  | mutate =>
    show 0 + s.left tasks qs + 7 * s.starts ≤ s.left tasks qs + 7 * s.starts + 0
    omega
  | @dropGuard q hguard =>
    have htotal := total_update Bool.toNat s.guarded false
      (hqueue q rfl)
    rw [hguard] at htotal
    simp only [Spends, State.left, State.releaseGuard, State.pushes, State.starts, Act.isMove,
      Act.isCall, Bool.toNat_true, Bool.toNat_false] at htotal ⊢
    omega

/-! ### What is started was pushed

Counted by queue and call, the starts of a run are a part of its pushes, since each queue is in
order. -/

omit [DecidableEq K] [Identifiable T K] in
/-- Pushes counted in the history of the manager, and in that of a queue. -/
theorem count_append (s : State K T O) (q : QueueId) (t : TaskId) :
    (s.log.filterMap Event.append).count (q, t) = (s.appended q).count t := by
  unfold State.appended
  induction s.log with
  | nil => rfl
  | cons e es ih =>
    cases e with
    | appended q' t' =>
      by_cases hq : q' = q <;> simp [Event.append, Event.appendedOn, hq, List.count_cons, ih]
    | started | completed => exact ih

omit [DecidableEq K] [Identifiable T K] in
/-- The same for starts. -/
theorem count_start (s : State K T O) (q : QueueId) (t : TaskId) :
    (s.log.filterMap Event.start).count (q, t) = (s.started q).count t := by
  unfold State.started
  induction s.log with
  | nil => rfl
  | cons e es ih =>
    cases e with
    | started q' t' =>
      by_cases hq : q' = q <;> simp [Event.start, Event.startedOn, hq, List.count_cons, ih]
    | appended | completed => exact ih

theorem starts_le_pushes {as : List (Act K T O)} {s : State K T O}
    (run : (system K T O).RunUnder NoPanic as s) : s.starts ≤ s.pushes := by
  refine List.Subperm.length_le (List.subperm_ext_iff.mpr fun (q, t) _ => ?_)
  obtain ⟨hand, happ, -⟩ := accounted_of_ordered (serial_of_run run q).2
  rw [count_start, count_append, happ, List.append_assoc, List.count_append]
  exact Nat.le_add_right _ _

/-- **The steps of a run.** A call has 19 at most, with those of its closure and of the processor it
spawns. -/
theorem moves_le {as : List (Act K T O)} {s : State K T O}
    (run : (system K T O).RunUnder NoPanic as s) :
    as.countP Act.isMove ≤ 19 * as.countP Act.isCall := by
  let tasks := (as.filterMap Act.task).toFinset
  let qs := (as.filterMap Act.unguards).toFinset
  have hrun : (system K T O).RunUnder (fun _ a => (∀ t, a.task = some t → t ∈ tasks) ∧
      ∀ q, a.unguards = some q → q ∈ qs) as s := by
    refine .of_mem run.run fun _ a ha => ⟨fun t ht => ?_, fun q hq => ?_⟩
    · exact List.mem_toFinset.mpr (List.mem_filterMap.mpr ⟨a, ha, ht⟩)
    · exact List.mem_toFinset.mpr (List.mem_filterMap.mpr ⟨a, ha, hq⟩)
  have hcount : as.countP Act.isMove + s.left tasks qs ≤
      19 * as.countP Act.isCall + 7 * s.starts := by
    -- what was spent, and what is left, is what the calls brought
    refine hrun.count_le (fun _ s => s.left tasks qs)
      (fun as s => 19 * as.countP Act.isCall + 7 * s.starts) ?_ ?_
    · simp [system, State.new, State.left, State.pushes, total, Call.left]
    · intro as s a s' run hcond hstep
      have hspends := (step_cases hstep).spends hcond.1 hcond.2 (procs_fresh run.run)
      have hcalls : (as ++ [a]).countP Act.isCall = as.countP Act.isCall + a.isCall.toNat := by
        rw [List.countP_append, List.countP_singleton]
        cases a.isCall <;> rfl
      unfold Spends at hspends
      rw [hcalls]
      omega
  have hstarted := starts_le_pushes run
  have hpushes : 7 * s.pushes ≤ s.left tasks qs := Nat.le_add_left ..
  omega

end UnifyAir.Manager
