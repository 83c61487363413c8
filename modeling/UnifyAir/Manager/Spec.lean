import UnifyAir.Concurrency.System

/-!
# UnifyAir — `ContextManager` and `ContextQueue` as a transition system

`app/src/ngap/manager/context_manager.rs` and `context_queue.rs`. The manager maps ids to
context queues; a context queue holds a context behind an `RwLock`, a list of futures behind a
`Mutex`, and the flag `processor_active`. `with_context` pushes its closure onto the queue of
an id and waits for the output on a oneshot channel; `process_queue` is a spawned task that
runs the futures of one queue; `add_context` and `change_id` change the map.

Any number of calls and processors run concurrently. A step is one map call, one lock
operation, one load or store of the flag, or what stands between two of these. `Call` and
`Proc` are the program counters with their locals. What a closure does to the context, when
it completes and with which output, whether it panics and when its write guard goes is up to
the environment and is in the action, as is the dropping of a call by its caller.

The fields of a `ContextQueue` are tables over queue ids; a queue nobody has made yet has the
values `ContextQueue::new` gives.
-/

namespace UnifyAir.Manager

open Concurrency

abbrev TaskId := Nat
abbrev QueueId := Nat
abbrev ProcId := Nat
abbrev ChanId := Nat

/-- `trait Identifiable`. -/
class Identifiable (T : Type) (K : outParam Type) where
  id : T → K

/-- `ContextChangeError`. -/
inductive ContextChangeError where
  | oldIdNotFound
  | newIdAlreadyExists
  deriving DecidableEq, Repr

/-- `ContextError<T>`. -/
inductive ContextError (K T : Type) where
  | contextAlreadyExists (id : K) (ctx : T)
  | contextNotFound (id : K)
  | contextChangeError (err : ContextChangeError) (oldId newId : K)
  deriving DecidableEq, Repr

/-- The future `enqueue_and_get_result` makes: the closure of the call `closure` and the
sending half of a channel. -/
structure QueuedFuture where
  closure : TaskId
  tx : ChanId
  deriving DecidableEq, Repr

/-- Who has the `Mutex` of a queue. -/
inductive Holder where
  | caller (t : TaskId)
  | processor (p : ProcId)
  deriving DecidableEq, Repr

/-- A oneshot channel. -/
inductive Chan (O : Type) where
  | empty
  | sent (output : O)
  -- the sender is gone without a value
  | closed
  deriving DecidableEq, Repr

/-- Where a call of the manager stands. -/
inductive Call (K T O : Type) where
  | idle
  -- `with_context`: about to call `read_async`
  | withRead (id : K)
  -- `schedule_and_wait`: about to make the channel and the future
  | withSchedule (q : QueueId)
  -- `push_future`: awaits the `Mutex`
  | pushLock (q : QueueId) (rx : ChanId)
  -- has it, about to call `push_back`
  | pushBack (q : QueueId) (rx : ChanId)
  -- about to load `processor_active`
  | pushLoad (q : QueueId) (rx : ChanId)
  -- about to store `true`
  | pushStore (q : QueueId) (rx : ChanId)
  -- about to spawn the processor
  | pushSpawn (q : QueueId) (rx : ChanId)
  -- about to give the `Mutex` back
  | pushUnlock (q : QueueId) (rx : ChanId)
  -- awaits the receiving half of its channel
  | awaitRx (q : QueueId) (rx : ChanId)
  | withReturned (res : Except (ContextError K T) O)
  -- the `unwrap` of `rx.await` panicked
  | recvPanicked
  -- `add_context`: about to call `insert_async`
  | addInsert (id : K) (q : QueueId)
  | addReturned (res : Except (ContextError K T) Unit)
  -- the `unwrap` of `Arc::into_inner` panicked
  | addPanicked
  -- `change_id`: about to call `remove_async`
  | changeRemove (oldId newId : K)
  -- about to call `insert_async` under the new id
  | changeInsert (oldId newId : K) (q : QueueId)
  -- about to restore the old id
  | changeRestore (oldId newId : K) (q : QueueId)
  | changeReturned (res : Except (ContextError K T) Unit)
  | dropped
  deriving Repr

/-- A call can be dropped by its caller where it awaits. -/
def Call.atAwait {K T O : Type} : Call K T O → Bool
  | .withRead _ | .pushLock _ _ | .awaitRx _ _ | .addInsert _ _ | .changeRemove _ _
  | .changeInsert _ _ _ | .changeRestore _ _ _ => true
  | _ => false

/-- Where a `process_queue` task stands. -/
inductive Proc (O : Type) where
  | unspawned
  -- awaits the `Mutex`
  | lockWait (q : QueueId)
  -- has it, about to look whether the list is empty
  | locked (q : QueueId)
  -- has taken a future off the list, which awaits `write_owned`
  | popped (q : QueueId) (f : QueuedFuture)
  -- the closure runs
  | running (q : QueueId) (f : QueuedFuture)
  -- the future has the output, about to send it
  | sending (q : QueueId) (f : QueuedFuture) (output : O)
  -- the future is done, at the end of the loop body
  | iterEnd (q : QueueId)
  -- has lowered the flag, about to leave the loop
  | exiting (q : QueueId)
  | finished (q : QueueId)
  | panicked (q : QueueId)
  deriving Repr

/-- What happens to closures, in order. -/
inductive Event (O : Type) where
  | appended (q : QueueId) (closure : TaskId)
  | started (q : QueueId) (closure : TaskId)
  | completed (q : QueueId) (closure : TaskId) (output : O)
  deriving DecidableEq, Repr

structure State (K T O : Type) where
  -- `ContextManager.queues`
  queues : K → Option QueueId
  nextQueue : QueueId
  -- the fields of the queues; `inner` is `none` for a queue nobody has made
  inner : QueueId → Option T
  -- a write guard of `inner` is alive
  guarded : QueueId → Bool
  queue : QueueId → List QueuedFuture
  lock : QueueId → Option Holder
  processorActive : QueueId → Bool
  procs : ProcId → Proc O
  nextProc : ProcId
  chans : ChanId → Chan O
  nextChan : ChanId
  calls : TaskId → Call K T O
  log : List (Event O)

/-- `ContextManager::new` before any call. -/
def State.new (K T O : Type) : State K T O where
  queues := fun _ => none
  nextQueue := 0
  inner := fun _ => none
  guarded := fun _ => false
  queue := fun _ => []
  lock := fun _ => none
  processorActive := fun _ => false
  procs := fun _ => .unspawned
  nextProc := 0
  chans := fun _ => .empty
  nextChan := 0
  calls := fun _ => .idle
  log := []

inductive Act (K T O : Type) where
  | withContext (t : TaskId) (id : K)
  | addContext (t : TaskId) (ctx : T)
  | changeId (t : TaskId) (oldId newId : K)
  -- call `t` takes its next step
  | caller (t : TaskId)
  -- the caller of `t` drops it
  | drop (t : TaskId)
  -- processor `p` takes its next step
  | proc (p : ProcId)
  -- the closure processor `p` runs completes
  | complete (p : ProcId) (output : O)
  -- it panics
  | panic (p : ProcId)
  -- the owner of the write guard of queue `q` writes the context
  | mutate (q : QueueId) (ctx : T)
  -- or lets go of the guard
  | dropGuard (q : QueueId)
  deriving DecidableEq, Repr

/-- `Arc::into_inner` on an `Arc` with `strong` strong references. -/
def arcIntoInner {α : Type} (strong : Nat) (value : α) : Option α :=
  if strong = 1 then some value else none

variable {K T O : Type}

namespace State

def setCall (s : State K T O) (t : TaskId) (c : Call K T O) : State K T O :=
  { s with calls := Function.update s.calls t c }

def setProc (s : State K T O) (p : ProcId) (proc : Proc O) : State K T O :=
  { s with procs := Function.update s.procs p proc }

/-! ## `with_context`

The steps of a call of `with_context`, each a function of the state. Between pushing its future and
waiting for the output the call holds the `Mutex` of its queue. -/

/-- The `read_async` of `with_context`. -/
def readQueue (s : State K T O) (id : K) : Call K T O :=
  match s.queues id with
  | some q => .withSchedule q
  | none => .withReturned (.error (.contextNotFound id))

/-- `oneshot::channel` and `enqueue_and_get_result`. -/
def schedule (s : State K T O) (t : TaskId) (q : QueueId) : State K T O :=
  { s with
    nextChan := s.nextChan + 1
    calls := Function.update s.calls t (.pushLock q s.nextChan) }

/-- `self.queue.lock().await` of `push_future`. -/
def lockCaller (s : State K T O) (t : TaskId) (q : QueueId) (rx : ChanId) : State K T O :=
  { s with
    lock := Function.update s.lock q (some (.caller t))
    calls := Function.update s.calls t (.pushBack q rx) }

/-- `queue.push_back(future)`. -/
def pushBack (s : State K T O) (t : TaskId) (q : QueueId) (rx : ChanId) : State K T O :=
  { s with
    queue := Function.update s.queue q (s.queue q ++ [⟨t, rx⟩])
    log := s.log ++ [.appended q t]
    calls := Function.update s.calls t (.pushLoad q rx) }

/-- `processor_active.load`. -/
def loadActive (s : State K T O) (q : QueueId) (rx : ChanId) : Call K T O :=
  if s.processorActive q then .pushUnlock q rx else .pushStore q rx

/-- `processor_active.store(true)`. -/
def storeActive (s : State K T O) (t : TaskId) (q : QueueId) (rx : ChanId) : State K T O :=
  { s with
    processorActive := Function.update s.processorActive q true
    calls := Function.update s.calls t (.pushSpawn q rx) }

/-- `tokio::spawn(process_queue)`. -/
def spawnProcessor (s : State K T O) (t : TaskId) (q : QueueId) (rx : ChanId) : State K T O :=
  { s with
    procs := Function.update s.procs s.nextProc (.lockWait q)
    nextProc := s.nextProc + 1
    calls := Function.update s.calls t (.pushUnlock q rx) }

/-- The end of `push_future`. -/
def unlockCaller (s : State K T O) (t : TaskId) (q : QueueId) (rx : ChanId) : State K T O :=
  { s with
    lock := Function.update s.lock q none
    calls := Function.update s.calls t (.awaitRx q rx) }

/-- `rx.await.unwrap()`. -/
def receive (s : State K T O) (rx : ChanId) : Option (Call K T O) :=
  match s.chans rx with
  | .empty => none
  | .sent output => some (.withReturned (.ok output))
  | .closed => some .recvPanicked

/-! ## `add_context` and `change_id`

The calls that change the map. An insert that fails hands its value back; `change_id` then tries to
put its queue back under the old id, and does not look at the result. -/

/-- `Arc::new(ContextQueue::new(context))`. -/
def newQueue [Identifiable T K] (s : State K T O) (t : TaskId) (ctx : T) : State K T O :=
  { s with
    nextQueue := s.nextQueue + 1
    inner := Function.update s.inner s.nextQueue (some ctx)
    calls := Function.update s.calls t (.addInsert (Identifiable.id ctx) s.nextQueue) }

/-- The `map_err` of `add_context`. The variable `queue` of `add_context` is still alive, so
the `Arc` the failed insert hands back is one of two. -/
def insertFailed (s : State K T O) (id : K) (q : QueueId) : Call K T O :=
  match arcIntoInner 2 (s.inner q) with
  | some (some ctx) => .addReturned (.error (.contextAlreadyExists id ctx))
  | _ => .addPanicked

variable [DecidableEq K]

/-- The map after an insert under a free id. -/
def store (s : State K T O) (t : TaskId) (id : K) (q : QueueId) (c : Call K T O) :
    State K T O :=
  { s with
    queues := Function.update s.queues id (some q)
    calls := Function.update s.calls t c }

/-- The map after the removal of an id. -/
def unstore (s : State K T O) (t : TaskId) (id : K) (c : Call K T O) : State K T O :=
  { s with
    queues := Function.update s.queues id none
    calls := Function.update s.calls t c }

/-- The `insert_async` of `add_context`. -/
def addInsert (s : State K T O) (t : TaskId) (id : K) (q : QueueId) : State K T O :=
  match s.queues id with
  | some _ => s.setCall t (s.insertFailed id q)
  | none => s.store t id q (.addReturned (.ok ()))

/-- The `remove_async` of `change_id`. -/
def changeRemove (s : State K T O) (t : TaskId) (oldId newId : K) : State K T O :=
  match s.queues oldId with
  | some q => s.unstore t oldId (.changeInsert oldId newId q)
  | none =>
    s.setCall t (.changeReturned (.error (.contextChangeError .oldIdNotFound oldId newId)))

/-- The `insert_async` of `change_id` under the new id. -/
def changeInsert (s : State K T O) (t : TaskId) (oldId newId : K) (q : QueueId) : State K T O :=
  match s.queues newId with
  | some _ => s.setCall t (.changeRestore oldId newId q)
  | none => s.store t newId q (.changeReturned (.ok ()))

/-- The `insert_async` that restores the old id, whose result is not looked at. -/
def changeRestore (s : State K T O) (t : TaskId) (oldId newId : K) (q : QueueId) : State K T O :=
  let res : Call K T O :=
    .changeReturned (.error (.contextChangeError .newIdAlreadyExists oldId newId))
  match s.queues oldId with
  | some _ => s.setCall t res
  | none => s.store t oldId q res

/-- The next step of call `t`. -/
def callStep (s : State K T O) (t : TaskId) : Option (State K T O) :=
  match s.calls t with
  | .withRead id => some (s.setCall t (s.readQueue id))
  | .withSchedule q => some (s.schedule t q)
  | .pushLock q rx => if s.lock q = none then some (s.lockCaller t q rx) else none
  | .pushBack q rx => some (s.pushBack t q rx)
  | .pushLoad q rx => some (s.setCall t (s.loadActive q rx))
  | .pushStore q rx => some (s.storeActive t q rx)
  | .pushSpawn q rx => some (s.spawnProcessor t q rx)
  | .pushUnlock q rx => some (s.unlockCaller t q rx)
  | .awaitRx _ rx => (s.receive rx).map (s.setCall t)
  | .addInsert id q => some (s.addInsert t id q)
  | .changeRemove oldId newId => some (s.changeRemove t oldId newId)
  | .changeInsert oldId newId q => some (s.changeInsert t oldId newId q)
  | .changeRestore oldId newId q => some (s.changeRestore t oldId newId q)
  | _ => none

/-! ## `process_queue`

The steps of a processor. It holds the `Mutex` from before the look at `is_empty` to after the pop,
or to the end of the task; the closure runs without it. -/

/-- `self.queue.lock().await` of `process_queue`. -/
def lockProcessor (s : State K T O) (p : ProcId) (q : QueueId) : State K T O :=
  { s with
    lock := Function.update s.lock q (some (.processor p))
    procs := Function.update s.procs p (.locked q) }

/-- `processor_active.store(false)` and the `break`. -/
def stopProcessor (s : State K T O) (p : ProcId) (q : QueueId) : State K T O :=
  { s with
    processorActive := Function.update s.processorActive q false
    procs := Function.update s.procs p (.exiting q) }

/-- `queue.pop_front()` on a list that begins with `f`. -/
def popFront (s : State K T O) (p : ProcId) (q : QueueId) (f : QueuedFuture)
    (rest : List QueuedFuture) : State K T O :=
  { s with
    queue := Function.update s.queue q rest
    procs := Function.update s.procs p (.popped q f) }

/-- The look at `is_empty`. -/
def nextFuture (s : State K T O) (p : ProcId) (q : QueueId) : State K T O :=
  match s.queue q with
  | [] => s.stopProcessor p q
  | f :: rest => s.popFront p q f rest

/-- `write_owned().await` and the call of the closure. -/
def startClosure (s : State K T O) (p : ProcId) (q : QueueId) (f : QueuedFuture) : State K T O :=
  { s with
    guarded := Function.update s.guarded q true
    log := s.log ++ [.started q f.closure]
    procs := Function.update s.procs p (.running q f) }

/-- The closure's future completes. -/
def completeClosure (s : State K T O) (p : ProcId) (q : QueueId) (f : QueuedFuture) (output : O) :
    State K T O :=
  { s with
    log := s.log ++ [.completed q f.closure output]
    procs := Function.update s.procs p (.sending q f output) }

/-- `tx.send(output)`; what becomes of the value without a receiver is nobody's business. -/
def send (s : State K T O) (p : ProcId) (q : QueueId) (f : QueuedFuture) (output : O) :
    State K T O :=
  { s with
    chans := Function.update s.chans f.tx (.sent output)
    procs := Function.update s.procs p (.iterEnd q) }

/-- The guard of the `Mutex` goes at the end of the loop body, or with the `break`. -/
def unlockProcessor (s : State K T O) (p : ProcId) (q : QueueId) (proc : Proc O) : State K T O :=
  { s with
    lock := Function.update s.lock q none
    procs := Function.update s.procs p proc }

/-- A panic of the closure unwinds the processor: its guard and the sender go. -/
def panicClosure (s : State K T O) (p : ProcId) (q : QueueId) (f : QueuedFuture) : State K T O :=
  { s with
    lock := Function.update s.lock q none
    chans := Function.update s.chans f.tx .closed
    procs := Function.update s.procs p (.panicked q) }

/-- A write through the guard of `inner`. -/
def writeInner (s : State K T O) (q : QueueId) (ctx : T) : State K T O :=
  { s with inner := Function.update s.inner q (some ctx) }

def releaseGuard (s : State K T O) (q : QueueId) : State K T O :=
  { s with guarded := Function.update s.guarded q false }

/-- The next step of processor `p`. -/
def procStep (s : State K T O) (p : ProcId) : Option (State K T O) :=
  match s.procs p with
  | .lockWait q => if s.lock q = none then some (s.lockProcessor p q) else none
  | .locked q => some (s.nextFuture p q)
  | .popped q f => if s.guarded q = false then some (s.startClosure p q f) else none
  | .sending q f output => some (s.send p q f output)
  | .iterEnd q => some (s.unlockProcessor p q (.lockWait q))
  | .exiting q => some (s.unlockProcessor p q (.finished q))
  | _ => none

end State

variable [DecidableEq K] [Identifiable T K]

/-- One step of the system. -/
def step (s : State K T O) : Act K T O → Option (State K T O)
  | .withContext t id => match s.calls t with
    | .idle => some (s.setCall t (.withRead id))
    | _ => none
  | .addContext t ctx => match s.calls t with
    | .idle => some (s.newQueue t ctx)
    | _ => none
  | .changeId t oldId newId => match s.calls t with
    | .idle => some (s.setCall t (.changeRemove oldId newId))
    | _ => none
  | .caller t => s.callStep t
  | .drop t => if (s.calls t).atAwait then some (s.setCall t .dropped) else none
  | .proc p => s.procStep p
  | .complete p output => match s.procs p with
    | .running q f => some (s.completeClosure p q f output)
    | _ => none
  | .panic p => match s.procs p with
    | .running q f => some (s.panicClosure p q f)
    | _ => none
  | .mutate q ctx => if s.guarded q then some (s.writeInner q ctx) else none
  | .dropGuard q => if s.guarded q then some (s.releaseGuard q) else none

/-- A `ContextManager` and any number of concurrent calls on it. -/
def system (K T O : Type) [DecidableEq K] [Identifiable T K] :
    System (State K T O) (Act K T O) where
  init := .new K T O
  step := step

end UnifyAir.Manager
