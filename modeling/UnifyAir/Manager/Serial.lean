import UnifyAir.Concurrency.SerialQueue
import UnifyAir.Manager.Steps

/-!
# UnifyAir — each context queue is a serial queue

`view s q` forgets everything but one context queue: who has its `Mutex`, its list, its flag,
and where the calls and the processors stand with respect to it. As long as no closure
panics, every step of the manager is, for every queue, a step of the serial queue or no step
at all (`serial_step`); a step on one queue does not show on another, and the map, `add_context`
and `change_id` show on none. The invariants of the serial queue follow for every queue of
every run (`serial_of_run`).
-/

namespace UnifyAir.Manager

open Concurrency
open Concurrency.SerialQueue (Phase Attended Ordered)

variable {K T O : Type}

/-! ## The view of one queue

What a call or a processor has to do with one queue is its phase there. A call that works on another
queue is outside, and so is one that works on none; the view does not tell them apart. -/

/-- Where a call stands with respect to queue `q`. -/
def Call.phase (q : QueueId) : Call K T O → Phase Holder
  | .pushBack q' _ => if q' = q then .locked else .out
  | .pushLoad q' _ => if q' = q then .appended else .out
  | .pushStore q' _ => if q' = q then .storing else .out
  | .pushSpawn q' _ => if q' = q then .spawning else .out
  | .pushUnlock q' _ => if q' = q then .leaving else .out
  | .awaitRx q' _ => if q' = q then .over else .out
  | .withReturned _ | .recvPanicked | .addReturned _ | .addPanicked | .changeReturned _
  | .dropped => .over
  | _ => .out

/-- Where a processor stands with respect to queue `q`. -/
def Proc.phase (q : QueueId) : Proc O → Phase Holder
  | .lockWait q' => if q' = q then .waiting else .out
  | .locked q' => if q' = q then .awake else .out
  | .popped q' f => if q' = q then .popped (.caller f.closure) else .out
  | .running q' f => if q' = q then .running (.caller f.closure) else .out
  | .sending q' _ _ | .iterEnd q' => if q' = q then .ending else .out
  | .exiting q' => if q' = q then .exiting else .out
  | .finished q' | .panicked q' => if q' = q then .over else .out
  | .unspawned => .out

def Event.appendedOn (q : QueueId) : Event O → Option TaskId
  | .appended q' t => if q' = q then some t else none
  | _ => none

def Event.startedOn (q : QueueId) : Event O → Option TaskId
  | .started q' t => if q' = q then some t else none
  | _ => none

/-- The closures `push_future` has appended to queue `q`, in order. -/
def State.appended (s : State K T O) (q : QueueId) : List TaskId :=
  s.log.filterMap (Event.appendedOn q)

/-- The closures processors have started on queue `q`, in order. -/
def State.started (s : State K T O) (q : QueueId) : List TaskId :=
  s.log.filterMap (Event.startedOn q)

def State.phases (s : State K T O) (q : QueueId) : Holder → Phase Holder
  | .caller t => (s.calls t).phase q
  | .processor p => (s.procs p).phase q

def view (s : State K T O) (q : QueueId) : SerialQueue.State Holder where
  phase := s.phases q
  lock := s.lock q
  jobs := (s.queue q).map fun f => .caller f.closure
  active := s.processorActive q
  arrived := (s.appended q).map .caller
  started := (s.started q).map .caller

/-- A move of a call changes its own phase at every queue, and no other. -/
theorem phases_call (s s' : State K T O) {t : TaskId} {c : Call K T O}
    (hcalls : s'.calls = Function.update s.calls t c) (hprocs : s'.procs = s.procs)
    (q : QueueId) : s'.phases q = Function.update (s.phases q) (.caller t) (c.phase q) := by
  funext a
  cases a with
  | caller t' =>
    by_cases ht : t' = t
    · subst ht; simp [State.phases, hcalls]
    · simp [State.phases, hcalls, ht]
  | processor p => simp [State.phases, hprocs]

theorem phases_proc (s s' : State K T O) {p : ProcId} {proc : Proc O}
    (hcalls : s'.calls = s.calls) (hprocs : s'.procs = Function.update s.procs p proc)
    (q : QueueId) : s'.phases q = Function.update (s.phases q) (.processor p) (proc.phase q) := by
  funext a
  cases a with
  | caller t => simp [State.phases, hcalls]
  | processor p' =>
    by_cases hp : p' = p
    · subst hp; simp [State.phases, hprocs]
    · simp [State.phases, hprocs, hp]

/-! ## Steps that do not show on a queue

Most steps of the manager concern another queue or none. They leave the fields of the queue alone,
and the phase of the call or processor that moves. -/

/-- The fields of queue `q` and its history are the same in two states. -/
structure SameQueue (s s' : State K T O) (q : QueueId) : Prop where
  lock : s'.lock q = s.lock q
  queue : s'.queue q = s.queue q
  active : s'.processorActive q = s.processorActive q
  appended : s'.appended q = s.appended q
  started : s'.started q = s.started q

/-- If the fields are the same, the views differ in the phases at most. -/
theorem SameQueue.view_eq {s s' : State K T O} {q : QueueId} (h : SameQueue s s' q) :
    view s' q = { view s q with phase := s'.phases q } := by
  simp only [view, h.lock, h.queue, h.active, h.appended, h.started]

/-- A call moves without a change of the queue: its phase stays, or it is over without having been
at the queue. In the second case the serial queue has a step for it. -/
theorem serial_call {s s' : State K T O} {t : TaskId} {c : Call K T O} {q : QueueId}
    (hcalls : s'.calls = Function.update s.calls t c) (hprocs : s'.procs = s.procs)
    (hsame : SameQueue s s' q)
    (hphase : c.phase q = (s.calls t).phase q ∨
      (s.calls t).phase q = .out ∧ c.phase q = .over) :
    view s' q = view s q ∨ SerialQueue.Step (view s q) (view s' q) := by
  rw [hsame.view_eq, phases_call s s' hcalls hprocs q]
  rcases hphase with heq | ⟨hout, hover⟩
  · -- the phase has not changed, so neither has the view
    left
    rw [heq]
    have hself : Function.update (s.phases q) (.caller t) ((s.calls t).phase q) = s.phases q :=
      Function.update_eq_self (Holder.caller t) (s.phases q)
    rw [hself]
    rfl
  · right
    rw [hover]
    exact .withdraw (Holder.caller t) hout

/-- A processor moves without a change of the queue and of its phase there. -/
theorem serial_proc {s s' : State K T O} {p : ProcId} {proc : Proc O} {q : QueueId}
    (hcalls : s'.calls = s.calls) (hprocs : s'.procs = Function.update s.procs p proc)
    (hsame : SameQueue s s' q) (hphase : proc.phase q = (s.procs p).phase q) :
    view s' q = view s q := by
  rw [hsame.view_eq, phases_proc s s' hcalls hprocs q, hphase]
  have hself : Function.update (s.phases q) (.processor p) ((s.procs p).phase q) = s.phases q :=
    Function.update_eq_self (Holder.processor p) (s.phases q)
  rw [hself]
  rfl

theorem sameQueue_setCall (s : State K T O) (t : TaskId) (c : Call K T O) (q : QueueId) :
    SameQueue s (s.setCall t c) q := ⟨rfl, rfl, rfl, rfl, rfl⟩

/-- A call that ends has left every queue, or was never there. -/
theorem phase_of_atAwait {c : Call K T O} (h : c.atAwait = true) (q : QueueId) :
    .over = c.phase q ∨ c.phase q = .out := by
  cases c with
  | awaitRx q' rx => by_cases hq : q' = q <;> simp [Call.phase, hq]
  | withRead | pushLock | addInsert | changeRemove | changeInsert | changeRestore =>
    exact Or.inr rfl
  | idle | withSchedule | pushBack | pushLoad | pushStore | pushSpawn | pushUnlock | withReturned
  | recvPanicked | addReturned | addPanicked | changeReturned | dropped => cases h

/-- A lookup leads to where no queue is touched yet, or to the end. -/
theorem readQueue_phase (s : State K T O) (id : K) (q : QueueId) :
    (s.readQueue id).phase q = .out ∨ (s.readQueue id).phase q = .over := by
  unfold State.readQueue
  split
  · exact Or.inl rfl
  · exact Or.inr rfl

theorem receive_phase {s : State K T O} {rx : ChanId} {c : Call K T O} (h : s.receive rx = some c)
    (q : QueueId) : c.phase q = .over := by
  unfold State.receive at h
  split at h <;> cases h <;> rfl

theorem insertFailed_phase (s : State K T O) (id : K) (q q' : QueueId) :
    (s.insertFailed id q).phase q' = .over := by
  unfold State.insertFailed
  split <;> rfl

/-! ## Steps that show on their own queue

Each of these is what the serial queue does in one step: the view after it is the view before it
with that one change. They are computed, field by field. -/

section Own

variable (s : State K T O) (t : TaskId) (p : ProcId) (q : QueueId) (rx : ChanId)

/-- A call takes the `Mutex`. -/
theorem view_lockCaller : view (s.lockCaller t q rx) q
    = { (view s q).move (.caller t) .locked with lock := some (.caller t) } := by
  have hphase := phases_call s (s.lockCaller t q rx) rfl rfl q
  refine SerialQueue.State.ext (hphase.trans ?_) ?_ rfl rfl rfl rfl
  · simp [Call.phase, SerialQueue.State.move, view]
  · simp [view, State.lockCaller]

/-- It appends its future, and the history of arrivals grows. -/
theorem view_pushBack : view (s.pushBack t q rx) q
    = { (view s q).move (.caller t) .appended with
        jobs := (view s q).jobs ++ [.caller t]
        arrived := (view s q).arrived ++ [.caller t] } := by
  have hphase := phases_call s (s.pushBack t q rx) rfl rfl q
  refine SerialQueue.State.ext (hphase.trans ?_) rfl ?_ rfl ?_ ?_
  · simp [Call.phase, SerialQueue.State.move, view]
  · simp [view, State.pushBack]
  · simp [view, State.pushBack, State.appended, Event.appendedOn]
  · simp [view, State.pushBack, State.started, Event.startedOn, SerialQueue.State.move]

/-- It looks at the flag. If the flag is up it leaves, otherwise it goes on to put it up. -/
theorem view_loadActive : view (s.setCall t (s.loadActive q rx)) q
    = (view s q).move (.caller t) (if s.processorActive q then .leaving else .storing) := by
  have hphase := phases_call s (s.setCall t (s.loadActive q rx)) rfl rfl q
  refine SerialQueue.State.ext (hphase.trans ?_) rfl rfl rfl rfl rfl
  cases hact : s.processorActive q <;>
    simp [State.loadActive, hact, Call.phase, SerialQueue.State.move, view]

/-- It puts the flag up. -/
theorem view_storeActive : view (s.storeActive t q rx) q
    = { (view s q).move (.caller t) .spawning with active := true } := by
  have hphase := phases_call s (s.storeActive t q rx) rfl rfl q
  refine SerialQueue.State.ext (hphase.trans ?_) rfl rfl ?_ rfl rfl
  · simp [Call.phase, SerialQueue.State.move, view]
  · simp [view, State.storeActive]

/-- It spawns a processor. Two phases change here: the new processor waits, and the call is about to
leave. -/
theorem view_spawnProcessor : view (s.spawnProcessor t q rx) q
    = ((view s q).move (.processor s.nextProc) .waiting).move (.caller t) .leaving := by
  let s₁ := s.setProc s.nextProc (.lockWait q)
  have hproc : s₁.phases q = Function.update (s.phases q) (.processor s.nextProc) .waiting := by
    rw [phases_proc s s₁ rfl rfl q]
    simp [Proc.phase]
  have hcall : (s.spawnProcessor t q rx).phases q
      = Function.update (s₁.phases q) (.caller t) .leaving := by
    rw [phases_call s₁ (s.spawnProcessor t q rx) rfl rfl q]
    simp [Call.phase]
  exact SerialQueue.State.ext (hcall.trans (by rw [hproc]; rfl)) rfl rfl rfl rfl rfl

/-- It gives the `Mutex` back. -/
theorem view_unlockCaller : view (s.unlockCaller t q rx) q
    = { (view s q).move (.caller t) .over with lock := none } := by
  have hphase := phases_call s (s.unlockCaller t q rx) rfl rfl q
  refine SerialQueue.State.ext (hphase.trans ?_) ?_ rfl rfl rfl rfl
  · simp [Call.phase, SerialQueue.State.move, view]
  · simp [view, State.unlockCaller]

/-- A processor takes the `Mutex`. -/
theorem view_lockProcessor : view (s.lockProcessor p q) q
    = { (view s q).move (.processor p) .awake with lock := some (.processor p) } := by
  have hphase := phases_proc s (s.lockProcessor p q) rfl rfl q
  refine SerialQueue.State.ext (hphase.trans ?_) ?_ rfl rfl rfl rfl
  · simp [Proc.phase, SerialQueue.State.move, view]
  · simp [view, State.lockProcessor]

/-- It finds the list empty and takes the flag down, still under the `Mutex`. -/
theorem view_stopProcessor : view (s.stopProcessor p q) q
    = { (view s q).move (.processor p) .exiting with active := false } := by
  have hphase := phases_proc s (s.stopProcessor p q) rfl rfl q
  refine SerialQueue.State.ext (hphase.trans ?_) rfl rfl ?_ rfl rfl
  · simp [Proc.phase, SerialQueue.State.move, view]
  · simp [view, State.stopProcessor]

variable (f : QueuedFuture) (output : O)

/-- It takes the first future off the list. -/
theorem view_popFront (rest : List QueuedFuture) : view (s.popFront p q f rest) q
    = { (view s q).move (.processor p) (.popped (.caller f.closure)) with
        jobs := rest.map fun f => .caller f.closure } := by
  have hphase := phases_proc s (s.popFront p q f rest) rfl rfl q
  refine SerialQueue.State.ext (hphase.trans ?_) rfl ?_ rfl rfl rfl
  · simp [Proc.phase, SerialQueue.State.move, view]
  · simp [view, State.popFront]

/-- It starts the closure, and the history of starts grows. -/
theorem view_startClosure : view (s.startClosure p q f) q
    = { (view s q).move (.processor p) (.running (.caller f.closure)) with
        started := (view s q).started ++ [.caller f.closure] } := by
  have hphase := phases_proc s (s.startClosure p q f) rfl rfl q
  refine SerialQueue.State.ext (hphase.trans ?_) rfl rfl rfl ?_ ?_
  · simp [Proc.phase, SerialQueue.State.move, view]
  · simp [view, State.startClosure, State.appended, Event.appendedOn, SerialQueue.State.move]
  · simp [view, State.startClosure, State.started, Event.startedOn]

/-- The closure has completed. The serial queue does not know of outputs. -/
theorem view_completeClosure : view (s.completeClosure p q f output) q
    = (view s q).move (.processor p) .ending := by
  have hphase := phases_proc s (s.completeClosure p q f output) rfl rfl q
  refine SerialQueue.State.ext (hphase.trans ?_) rfl rfl rfl ?_ ?_
  · simp [Proc.phase, SerialQueue.State.move, view]
  · simp [view, State.completeClosure, State.appended, Event.appendedOn, SerialQueue.State.move]
  · simp [view, State.completeClosure, State.started, Event.startedOn, SerialQueue.State.move]

/-- The processor lets go of the `Mutex`, at the end of the loop body or of the task. -/
theorem view_unlockProcessor (proc : Proc O) : view (s.unlockProcessor p q proc) q
    = { (view s q).move (.processor p) (proc.phase q) with lock := none } := by
  have hphase := phases_proc s (s.unlockProcessor p q proc) rfl rfl q
  refine SerialQueue.State.ext (hphase.trans ?_) ?_ rfl rfl rfl rfl
  · simp [SerialQueue.State.move, view]
  · simp [view, State.unlockProcessor]

end Own

/-- The view of a new manager is a serial queue in its first state, for every queue, made or not. -/
theorem view_new (q : QueueId) : Attended (view (State.new K T O) q) ∧
    Ordered (view (State.new K T O) q) := by
  have hphase : ∀ a, (view (State.new K T O) q).phase a = .out := by
    intro a
    cases a <;> rfl
  -- nobody is inside, and nothing has arrived
  refine ⟨⟨?_, ?_, ?_, ?_, ?_, ?_, nofun, fun hjobs => absurd rfl hjobs⟩,
    ⟨⟨[], rfl, ?_, fun _ => rfl⟩, nofun, List.nodup_nil⟩⟩
  · intro a
    rw [hphase]
    exact ⟨nofun, nofun⟩
  all_goals
    intros a
    rw [hphase]
    nofun

theorem unspawned_update {s : State K T O} (h : ∀ p, s.nextProc ≤ p → s.procs p = .unspawned)
    {p : ProcId} (hp : s.procs p ≠ .unspawned) (proc : Proc O) (p' : ProcId)
    (hle : s.nextProc ≤ p') : Function.update s.procs p proc p' = .unspawned := by
  have hne : p' ≠ p := fun heq => hp (heq ▸ h p' hle)
  rw [Function.update_of_ne hne]
  exact h p' hle

/-! ## The simulation

With a closure that panics there would be a step that no serial queue has: a processor that goes
away with the flag up. This is the only use of the condition. -/

variable [DecidableEq K] [Identifiable T K]

/-- No closure panics. -/
def NoPanic (_ : State K T O) (a : Act K T O) : Prop := ∀ p, a ≠ .panic p

/-- **The simulation.** For every queue, a step of the manager is a step of the serial queue or no
step at all. The proof goes through the steps of the manager, and for those that work on a queue
asks whether it is this one. -/
theorem serial_step {s s' : State K T O} {a : Act K T O} (hfresh : s.procs s.nextProc = .unspawned)
    (hpanic : NoPanic s a) (hstep : Step s a s') (q : QueueId) :
    view s' q = view s q ∨ SerialQueue.Step (view s q) (view s' q) := by
  -- each step of the manager is one of the queue `q`, or changes nothing that is seen of it
  cases hstep with
  | withContext hc | changeId hc =>
    exact serial_call rfl rfl ⟨rfl, rfl, rfl, rfl, rfl⟩ (Or.inl (by rw [hc]; rfl))
  | addContext hc => exact serial_call rfl rfl ⟨rfl, rfl, rfl, rfl, rfl⟩ (Or.inl (by rw [hc]; rfl))
  -- a read ends the call, or goes on to the queue it has found
  | @read t id hc =>
    refine serial_call rfl rfl (sameQueue_setCall ..) ?_
    rw [hc]
    rcases readQueue_phase s id q with h | h
    · exact Or.inl h
    · exact Or.inr ⟨rfl, h⟩
  | schedule hc => exact serial_call rfl rfl ⟨rfl, rfl, rfl, rfl, rfl⟩ (Or.inl (by rw [hc]; rfl))
  -- from here on the step is on some queue `q₀`: on this one, or on another
  | @lockCaller t q₀ rx hc hfree =>
    by_cases hq : q₀ = q
    · subst hq
      rw [view_lockCaller]
      exact Or.inr (.lock _ (by simp [view, State.phases, hc, Call.phase]) hfree)
    · exact serial_call rfl rfl ⟨Function.update_of_ne (Ne.symm hq) .., rfl, rfl, rfl, rfl⟩
        (Or.inl (by simp [hc, Call.phase, hq]))
  | @pushBack t q₀ rx hc =>
    by_cases hq : q₀ = q
    · subst hq
      rw [view_pushBack]
      exact Or.inr (.append _ (by simp [view, State.phases, hc, Call.phase]))
    · refine serial_call rfl rfl ⟨rfl, Function.update_of_ne (Ne.symm hq) .., rfl, ?_, ?_⟩
        (Or.inl (by simp [hc, Call.phase, hq]))
      · simp [State.pushBack, State.appended, Event.appendedOn, hq]
      · simp [State.pushBack, State.started, Event.startedOn]
  | @load t q₀ rx hc =>
    by_cases hq : q₀ = q
    · subst hq
      right
      have hphase : (view s q₀).phase (.caller t) = .appended := by
        simp [view, State.phases, hc, Call.phase]
      rw [view_loadActive]
      cases hact : s.processorActive q₀ with
      | true => exact .seeActive _ hphase hact
      | false => exact .seeIdle _ hphase hact
    · refine serial_call rfl rfl (sameQueue_setCall ..) (Or.inl ?_)
      unfold State.loadActive
      split <;> simp [hc, Call.phase, hq]
  | @storeActive t q₀ rx hc =>
    by_cases hq : q₀ = q
    · subst hq
      rw [view_storeActive]
      exact Or.inr (.store _ (by simp [view, State.phases, hc, Call.phase]))
    · exact serial_call rfl rfl ⟨rfl, rfl, Function.update_of_ne (Ne.symm hq) .., rfl, rfl⟩
        (Or.inl (by simp [hc, Call.phase, hq]))
  | @spawn t q₀ rx hc =>
    by_cases hq : q₀ = q
    · subst hq
      rw [view_spawnProcessor]
      exact Or.inr (.spawn _ _ (by simp [view, State.phases, hc, Call.phase])
        (by simp [view, State.phases, hfresh, Proc.phase]))
    · -- the new processor is no more there for `q` than the unspawned one was
      let s₁ := s.setProc s.nextProc (.lockWait q₀)
      have hview : view s₁ q = view s q :=
        serial_proc rfl rfl ⟨rfl, rfl, rfl, rfl, rfl⟩ (by simp [hfresh, Proc.phase, hq])
      rw [← hview]
      exact serial_call (s := s₁) rfl rfl ⟨rfl, rfl, rfl, rfl, rfl⟩
        (Or.inl (by simp [s₁, State.setProc, hc, Call.phase, hq]))
  | @unlockCaller t q₀ rx hc =>
    by_cases hq : q₀ = q
    · subst hq
      rw [view_unlockCaller]
      exact Or.inr (.unlock _ (by simp [view, State.phases, hc, Call.phase]))
    · exact serial_call rfl rfl ⟨Function.update_of_ne (Ne.symm hq) .., rfl, rfl, rfl, rfl⟩
        (Or.inl (by simp [hc, Call.phase, hq]))
  -- a caller that gets its result is over on its own queue
  | @receive t q₀ rx c hc hrecv =>
    refine serial_call rfl rfl (sameQueue_setCall ..) ?_
    have hover := receive_phase hrecv q
    rw [hc]
    by_cases hq : q₀ = q
    · exact Or.inl (hover.trans (by simp [Call.phase, hq]))
    · exact Or.inr ⟨by simp [Call.phase, hq], hover⟩
  | addFailed hc hkey =>
    exact serial_call rfl rfl (sameQueue_setCall ..)
      (Or.inr ⟨by rw [hc]; rfl, insertFailed_phase ..⟩)
  | addStored hc hkey | changeStored hc hkey | restored hc hkey =>
    exact serial_call rfl rfl ⟨rfl, rfl, rfl, rfl, rfl⟩ (Or.inr ⟨by rw [hc]; rfl, rfl⟩)
  | changeMissing hc hkey | restoreFailed hc hkey =>
    exact serial_call rfl rfl (sameQueue_setCall ..) (Or.inr ⟨by rw [hc]; rfl, rfl⟩)
  | changeRemoved hc hkey =>
    exact serial_call rfl rfl ⟨rfl, rfl, rfl, rfl, rfl⟩ (Or.inl (by rw [hc]; rfl))
  | changeConflict hc hkey =>
    exact serial_call rfl rfl (sameQueue_setCall ..) (Or.inl (by rw [hc]; rfl))
  -- a call that is dropped was at an await, where it is not inside of any queue
  | @drop t hc =>
    refine serial_call rfl rfl (sameQueue_setCall ..) ?_
    rcases phase_of_atAwait hc q with hover | hout
    · exact Or.inl hover
    · exact Or.inr ⟨hout, rfl⟩
  | @lockProcessor p q₀ hp hfree =>
    by_cases hq : q₀ = q
    · subst hq
      rw [view_lockProcessor]
      exact Or.inr (.wake _ (by simp [view, State.phases, hp, Proc.phase]) hfree)
    · exact Or.inl (serial_proc rfl rfl ⟨Function.update_of_ne (Ne.symm hq) .., rfl, rfl, rfl, rfl⟩
        (by simp [hp, Proc.phase, hq]))
  | @stop p q₀ hp hqueue =>
    by_cases hq : q₀ = q
    · subst hq
      rw [view_stopProcessor]
      exact Or.inr (.stop _ (by simp [view, State.phases, hp, Proc.phase]) (by simp [view, hqueue]))
    · exact Or.inl (serial_proc rfl rfl ⟨rfl, rfl, Function.update_of_ne (Ne.symm hq) .., rfl, rfl⟩
        (by simp [hp, Proc.phase, hq]))
  | @pop p q₀ f rest hp hqueue =>
    by_cases hq : q₀ = q
    · subst hq
      rw [view_popFront]
      exact Or.inr (.pop _ _ _ (by simp [view, State.phases, hp, Proc.phase])
        (by simp [view, hqueue]))
    · exact Or.inl (serial_proc rfl rfl ⟨rfl, Function.update_of_ne (Ne.symm hq) .., rfl, rfl, rfl⟩
        (by simp [hp, Proc.phase, hq]))
  | @start p q₀ f hp hguard =>
    by_cases hq : q₀ = q
    · subst hq
      rw [view_startClosure]
      exact Or.inr (.start _ _ (by simp [view, State.phases, hp, Proc.phase]))
    · refine Or.inl (serial_proc rfl rfl ⟨rfl, rfl, rfl, ?_, ?_⟩ (by simp [hp, Proc.phase, hq]))
      · simp [State.startClosure, State.appended, Event.appendedOn]
      · simp [State.startClosure, State.started, Event.startedOn, hq]
  | @complete p q₀ f output hp =>
    by_cases hq : q₀ = q
    · subst hq
      rw [view_completeClosure]
      exact Or.inr (.complete _ (.caller f.closure) (by simp [view, State.phases, hp, Proc.phase]))
    · refine Or.inl (serial_proc rfl rfl ⟨rfl, rfl, rfl, ?_, ?_⟩ (by simp [hp, Proc.phase, hq]))
      · simp [State.completeClosure, State.appended, Event.appendedOn]
      · simp [State.completeClosure, State.started, Event.startedOn]
  -- sending comes between the end of a closure and the next one, and is not seen
  | @send p q₀ f output hp =>
    exact Or.inl (serial_proc rfl rfl ⟨rfl, rfl, rfl, rfl, rfl⟩ (by rw [hp]; rfl))
  | @again p q₀ hp =>
    by_cases hq : q₀ = q
    · subst hq
      rw [view_unlockProcessor]
      simp only [Proc.phase, if_true]
      exact Or.inr (.again _ (by simp [view, State.phases, hp, Proc.phase]))
    · exact Or.inl (serial_proc rfl rfl ⟨Function.update_of_ne (Ne.symm hq) .., rfl, rfl, rfl, rfl⟩
        (by simp [hp, Proc.phase, hq]))
  | @exit p q₀ hp =>
    by_cases hq : q₀ = q
    · subst hq
      rw [view_unlockProcessor]
      simp only [Proc.phase, if_true]
      exact Or.inr (.exit _ (by simp [view, State.phases, hp, Proc.phase]))
    · exact Or.inl (serial_proc rfl rfl ⟨Function.update_of_ne (Ne.symm hq) .., rfl, rfl, rfl, rfl⟩
        (by simp [hp, Proc.phase, hq]))
  -- the run is one without panics
  | @panic p q₀ f hp => exact absurd rfl (hpanic p)
  | mutate | dropGuard => exact Or.inl rfl

/-! ## Every queue of every run

The invariants of the serial queue, pulled back. A processor that is spawned must be a new one,
which is an invariant of its own. -/

/-- Processors are numbered in the order in which they are spawned. -/
theorem procs_fresh_step {s s' : State K T O} {a : Act K T O}
    (h : ∀ p, s.nextProc ≤ p → s.procs p = .unspawned) (hstep : Step s a s') :
    ∀ p, s'.nextProc ≤ p → s'.procs p = .unspawned := by
  cases hstep with
  | withContext | addContext | changeId | read | schedule | lockCaller | pushBack | load
  | storeActive | unlockCaller | receive | addFailed | addStored | changeMissing | changeRemoved
  | changeConflict | changeStored | restoreFailed | restored | drop | mutate | dropGuard => exact h
  | @spawn t q rx hc =>
    intro p hle
    have hlt : s.nextProc < p := hle
    exact (Function.update_of_ne (Nat.ne_of_gt hlt) ..).trans (h p (Nat.le_of_lt hlt))
  | lockProcessor hp | stop hp | pop hp | start hp | complete hp | send hp | again hp | exit hp
  | panic hp => exact unspawned_update h (by rw [hp]; nofun) _

/-- So those with a number to come have not been spawned. -/
theorem procs_fresh {as : List (Act K T O)} {s : State K T O} (run : (system K T O).Run as s) :
    ∀ p, s.nextProc ≤ p → s.procs p = .unspawned :=
  run.invariant (P := fun s => ∀ p, s.nextProc ≤ p → s.procs p = .unspawned) (fun _ _ => rfl)
    fun _ _ _ _ _ h _ hstep => procs_fresh_step h (step_cases hstep)

/-- Every queue of a run without panics is attended and in order. By induction on the run, with the
step lemmas of the serial queue. -/
theorem serial_of_run {as : List (Act K T O)} {s : State K T O}
    (run : (system K T O).RunUnder NoPanic as s) (q : QueueId) :
    Attended (view s q) ∧ Ordered (view s q) := by
  refine run.invariant (P := fun s => Attended (view s q) ∧ Ordered (view s q)) (view_new q) ?_
  intro as s a s' run h hcond hstep
  have hfresh := procs_fresh run.run s.nextProc (Nat.le_refl _)
  rcases serial_step hfresh hcond (step_cases hstep) q with heq | hserial
  · rw [heq]; exact h
  · exact ⟨h.1.step hserial, h.2.step h.1 hserial⟩

end UnifyAir.Manager
