import UnifyAir.Manager.Spec

/-!
# UnifyAir — what one step of the `ContextManager` can do

The transitions of `step` with their guards, and its inversion into them. A step moves one
call or one processor; the map and the fields of a queue change with the call or the
processor that changes them.
-/

namespace UnifyAir.Manager

open Concurrency

variable {K T O : Type} [DecidableEq K] [Identifiable T K]

/-- The transitions of the manager. -/
inductive Step (s : State K T O) : Act K T O → State K T O → Prop where
  | withContext {t : TaskId} {id : K} (hc : s.calls t = .idle) :
      Step s (.withContext t id) (s.setCall t (.withRead id))
  | addContext {t : TaskId} {ctx : T} (hc : s.calls t = .idle) :
      Step s (.addContext t ctx) (s.newQueue t ctx)
  | changeId {t : TaskId} {oldId newId : K} (hc : s.calls t = .idle) :
      Step s (.changeId t oldId newId) (s.setCall t (.changeRemove oldId newId))
  | read {t : TaskId} {id : K} (hc : s.calls t = .withRead id) :
      Step s (.caller t) (s.setCall t (s.readQueue id))
  | schedule {t : TaskId} {q : QueueId} (hc : s.calls t = .withSchedule q) :
      Step s (.caller t) (s.schedule t q)
  | lockCaller {t : TaskId} {q : QueueId} {rx : ChanId} (hc : s.calls t = .pushLock q rx)
      (hfree : s.lock q = none) : Step s (.caller t) (s.lockCaller t q rx)
  | pushBack {t : TaskId} {q : QueueId} {rx : ChanId} (hc : s.calls t = .pushBack q rx) :
      Step s (.caller t) (s.pushBack t q rx)
  | load {t : TaskId} {q : QueueId} {rx : ChanId} (hc : s.calls t = .pushLoad q rx) :
      Step s (.caller t) (s.setCall t (s.loadActive q rx))
  | storeActive {t : TaskId} {q : QueueId} {rx : ChanId} (hc : s.calls t = .pushStore q rx) :
      Step s (.caller t) (s.storeActive t q rx)
  | spawn {t : TaskId} {q : QueueId} {rx : ChanId} (hc : s.calls t = .pushSpawn q rx) :
      Step s (.caller t) (s.spawnProcessor t q rx)
  | unlockCaller {t : TaskId} {q : QueueId} {rx : ChanId} (hc : s.calls t = .pushUnlock q rx) :
      Step s (.caller t) (s.unlockCaller t q rx)
  | receive {t : TaskId} {q : QueueId} {rx : ChanId} {c : Call K T O}
      (hc : s.calls t = .awaitRx q rx) (hrecv : s.receive rx = some c) :
      Step s (.caller t) (s.setCall t c)
  | addFailed {t : TaskId} {id : K} {q other : QueueId} (hc : s.calls t = .addInsert id q)
      (hkey : s.queues id = some other) : Step s (.caller t) (s.setCall t (s.insertFailed id q))
  | addStored {t : TaskId} {id : K} {q : QueueId} (hc : s.calls t = .addInsert id q)
      (hkey : s.queues id = none) : Step s (.caller t) (s.store t id q (.addReturned (.ok ())))
  | changeMissing {t : TaskId} {oldId newId : K} (hc : s.calls t = .changeRemove oldId newId)
      (hkey : s.queues oldId = none) :
      Step s (.caller t) (s.setCall t
        (.changeReturned (.error (.contextChangeError .oldIdNotFound oldId newId))))
  | changeRemoved {t : TaskId} {oldId newId : K} {q : QueueId}
      (hc : s.calls t = .changeRemove oldId newId) (hkey : s.queues oldId = some q) :
      Step s (.caller t) (s.unstore t oldId (.changeInsert oldId newId q))
  | changeConflict {t : TaskId} {oldId newId : K} {q other : QueueId}
      (hc : s.calls t = .changeInsert oldId newId q) (hkey : s.queues newId = some other) :
      Step s (.caller t) (s.setCall t (.changeRestore oldId newId q))
  | changeStored {t : TaskId} {oldId newId : K} {q : QueueId}
      (hc : s.calls t = .changeInsert oldId newId q) (hkey : s.queues newId = none) :
      Step s (.caller t) (s.store t newId q (.changeReturned (.ok ())))
  | restoreFailed {t : TaskId} {oldId newId : K} {q other : QueueId}
      (hc : s.calls t = .changeRestore oldId newId q) (hkey : s.queues oldId = some other) :
      Step s (.caller t) (s.setCall t
        (.changeReturned (.error (.contextChangeError .newIdAlreadyExists oldId newId))))
  | restored {t : TaskId} {oldId newId : K} {q : QueueId}
      (hc : s.calls t = .changeRestore oldId newId q) (hkey : s.queues oldId = none) :
      Step s (.caller t) (s.store t oldId q
        (.changeReturned (.error (.contextChangeError .newIdAlreadyExists oldId newId))))
  | drop {t : TaskId} (hc : (s.calls t).atAwait = true) :
      Step s (.drop t) (s.setCall t .dropped)
  | lockProcessor {p : ProcId} {q : QueueId} (hp : s.procs p = .lockWait q)
      (hfree : s.lock q = none) : Step s (.proc p) (s.lockProcessor p q)
  | stop {p : ProcId} {q : QueueId} (hp : s.procs p = .locked q) (hqueue : s.queue q = []) :
      Step s (.proc p) (s.stopProcessor p q)
  | pop {p : ProcId} {q : QueueId} {f : QueuedFuture} {rest : List QueuedFuture}
      (hp : s.procs p = .locked q) (hqueue : s.queue q = f :: rest) :
      Step s (.proc p) (s.popFront p q f rest)
  | start {p : ProcId} {q : QueueId} {f : QueuedFuture} (hp : s.procs p = .popped q f)
      (hguard : s.guarded q = false) : Step s (.proc p) (s.startClosure p q f)
  | complete {p : ProcId} {q : QueueId} {f : QueuedFuture} {output : O}
      (hp : s.procs p = .running q f) :
      Step s (.complete p output) (s.completeClosure p q f output)
  | send {p : ProcId} {q : QueueId} {f : QueuedFuture} {output : O}
      (hp : s.procs p = .sending q f output) : Step s (.proc p) (s.send p q f output)
  | again {p : ProcId} {q : QueueId} (hp : s.procs p = .iterEnd q) :
      Step s (.proc p) (s.unlockProcessor p q (.lockWait q))
  | exit {p : ProcId} {q : QueueId} (hp : s.procs p = .exiting q) :
      Step s (.proc p) (s.unlockProcessor p q (.finished q))
  | panic {p : ProcId} {q : QueueId} {f : QueuedFuture} (hp : s.procs p = .running q f) :
      Step s (.panic p) (s.panicClosure p q f)
  | mutate {q : QueueId} {ctx : T} (hguard : s.guarded q = true) :
      Step s (.mutate q ctx) (s.writeInner q ctx)
  | dropGuard {q : QueueId} (hguard : s.guarded q = true) :
      Step s (.dropGuard q) (s.releaseGuard q)

/-- What a call can do by itself, one case for each program counter. A call that waits for a lock or
an output has a guard. -/
theorem callStep_cases {s s' : State K T O} {t : TaskId} (h : s.callStep t = some s') :
    Step s (.caller t) s' := by
  unfold State.callStep at h
  -- one branch for each state of a call, with its tests
  cases hc : s.calls t with
  | withRead id => simp only [hc, Option.some.injEq] at h; subst h; exact .read hc
  | withSchedule q => simp only [hc, Option.some.injEq] at h; subst h; exact .schedule hc
  | pushLock q rx =>
    simp only [hc] at h
    split at h
    · next hfree => simp only [Option.some.injEq] at h; subst h; exact .lockCaller hc hfree
    · cases h
  | pushBack q rx => simp only [hc, Option.some.injEq] at h; subst h; exact .pushBack hc
  | pushLoad q rx => simp only [hc, Option.some.injEq] at h; subst h; exact .load hc
  | pushStore q rx => simp only [hc, Option.some.injEq] at h; subst h; exact .storeActive hc
  | pushSpawn q rx => simp only [hc, Option.some.injEq] at h; subst h; exact .spawn hc
  | pushUnlock q rx => simp only [hc, Option.some.injEq] at h; subst h; exact .unlockCaller hc
  | awaitRx q rx =>
    simp only [hc, Option.map_eq_some_iff] at h
    obtain ⟨c, hrecv, rfl⟩ := h
    exact .receive hc hrecv
  | addInsert id q =>
    simp only [hc, Option.some.injEq, State.addInsert] at h
    split at h
    · next hkey => subst h; exact .addFailed hc hkey
    · next hkey => subst h; exact .addStored hc hkey
  | changeRemove oldId newId =>
    simp only [hc, Option.some.injEq, State.changeRemove] at h
    split at h
    · next hkey => subst h; exact .changeRemoved hc hkey
    · next hkey => subst h; exact .changeMissing hc hkey
  | changeInsert oldId newId q =>
    simp only [hc, Option.some.injEq, State.changeInsert] at h
    split at h
    · next hkey => subst h; exact .changeConflict hc hkey
    · next hkey => subst h; exact .changeStored hc hkey
  | changeRestore oldId newId q =>
    simp only [hc, Option.some.injEq, State.changeRestore] at h
    split at h
    · next hkey => subst h; exact .restoreFailed hc hkey
    · next hkey => subst h; exact .restored hc hkey
  | idle | withReturned | recvPanicked | addReturned | addPanicked | changeReturned | dropped =>
    simp [hc] at h

/-- The steps that a processor takes by itself: the lock, the first future of the list, the send,
and the way out when the list is empty. Where it has a closure that runs it can only wait. -/
theorem procStep_cases {s s' : State K T O} {p : ProcId} (h : s.procStep p = some s') :
    Step s (.proc p) s' := by
  unfold State.procStep at h
  -- and for each of a processor
  cases hp : s.procs p with
  | lockWait q =>
    simp only [hp] at h
    split at h
    · next hfree => simp only [Option.some.injEq] at h; subst h; exact .lockProcessor hp hfree
    · cases h
  | locked q =>
    simp only [hp, Option.some.injEq, State.nextFuture] at h
    split at h
    · next hqueue => subst h; exact .stop hp hqueue
    · next hqueue => subst h; exact .pop hp hqueue
  | popped q f =>
    simp only [hp] at h
    split at h
    · next hguard => simp only [Option.some.injEq] at h; subst h; exact .start hp hguard
    · cases h
  | sending q f output => simp only [hp, Option.some.injEq] at h; subst h; exact .send hp
  | iterEnd q => simp only [hp, Option.some.injEq] at h; subst h; exact .again hp
  | exiting q => simp only [hp, Option.some.injEq] at h; subst h; exact .exit hp
  | unspawned | running | finished | panicked => simp [hp] at h

/-- The inversion of the step function. Everything that is proved of a step is proved by cases on
`Step`. -/
theorem step_cases {s s' : State K T O} {a : Act K T O} (h : step s a = some s') :
    Step s a s' := by
  -- calls that begin, the steps of each party, and what comes from outside
  cases a with
  | withContext t id =>
    simp only [step] at h
    split at h
    · next hc => cases h; exact .withContext hc
    · cases h
  | addContext t ctx =>
    simp only [step] at h
    split at h
    · next hc => cases h; exact .addContext hc
    · cases h
  | changeId t oldId newId =>
    simp only [step] at h
    split at h
    · next hc => cases h; exact .changeId hc
    · cases h
  | caller t => exact callStep_cases h
  | drop t =>
    simp only [step] at h
    split at h
    · next hc => cases h; exact .drop hc
    · cases h
  | proc p => exact procStep_cases h
  | complete p output =>
    simp only [step] at h
    split at h
    · next hp => cases h; exact .complete hp
    · cases h
  | panic p =>
    simp only [step] at h
    split at h
    · next hp => cases h; exact .panic hp
    · cases h
  | mutate q ctx =>
    simp only [step] at h
    split at h
    · next hguard => cases h; exact .mutate hguard
    · cases h
  | dropGuard q =>
    simp only [step] at h
    split at h
    · next hguard => cases h; exact .dropGuard hguard
    · cases h

end UnifyAir.Manager
