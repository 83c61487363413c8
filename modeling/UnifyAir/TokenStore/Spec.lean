import UnifyAir.Counter
import UnifyAir.Concurrency.System

/-!
# UnifyAir — the `TokenStore` as a transition system

`utils/client/src/token_store.rs`. The store maps keys to `Arc<TokenState<V>>`; `get` waits
on the `Notify` of an entry that is being updated, `set` installs an `Updating` entry, runs
the caller's future and replaces the entry by its result.

Any number of `get` and `set` calls run concurrently. Each map call of `scc` is one step, as
is everything a call does between two of them; an action names the call that moves, and
where the environment decides something (how a caller's future ends, when a call is dropped)
the action carries the decision. `Call` is the program counter of one call with its locals.

`Arc`s are addresses into a heap that only grows, so that a `TokenEntry` handed to a caller
is a pointer to a state other calls can reach too. A `Notify` counts its `notify_waiters`
calls: a `Notified` future remembers the count at its creation and is ready once the count
has moved on, and no permit is stored.
-/

namespace UnifyAir.TokenStore

open Concurrency

abbrev TaskId := Nat
abbrev NotifyId := Nat
abbrev ArcId := Nat

/-- `TokenStateInner<V>`. -/
inductive TokenStateInner (V : Type) where
  | ready (v : V)
  | updating (notify : NotifyId)
  | failed
  deriving DecidableEq, Repr

/-- `TokenState<V>`. -/
structure TokenState (V : Type) where
  id : BitVec 32
  state : TokenStateInner V
  deriving DecidableEq, Repr

/-- `TokenState::is_updating`. -/
def TokenState.isUpdating {V : Type} (ts : TokenState V) : Bool :=
  match ts.state with
  | .updating _ => true
  | _ => false

/-- `StoreError`; `E` is the error type of the futures passed to `set`. -/
inductive StoreError (E : Type) where
  | readError (id : BitVec 32)
  | invalidStateTransitionError (id : BitVec 32)
  | updateAlredyInProgress (id : BitVec 32)
  | tokenEntryCreationError (id : BitVec 32)
  | maximumReadIterations (id : BitVec 32)
  | innerFutureError (err : E)
  deriving DecidableEq, Repr

/-- `TokenEntry<V>(Arc<TokenState<V>>)`. -/
structure TokenEntry where
  arc : ArcId
  deriving DecidableEq, Repr

/-- `TokenEntry::new_unchecked`: the state behind the `Arc` is not looked at. -/
def TokenEntry.newUnchecked (arc : ArcId) : TokenEntry := ⟨arc⟩

/-- `TokenEntry::get` on a heap; `none` is the `unreachable!()` arm. -/
def TokenEntry.get {V : Type} (arcs : List (TokenState V)) (entry : TokenEntry) : Option V :=
  match arcs[entry.arc]? with
  | some ⟨_, .ready v⟩ => some v
  | _ => none

/-- Where a call of the store stands. The constructors follow the `await` points and map
calls of `get` and `set` in source order. -/
inductive Call (K V E : Type) where
  | idle
  -- `get`: about to call `read_async` in round `round` of `for _ in 1..10`
  | getRead (key : K) (round : Nat)
  -- holds a clone of the entry's `Notify` and has let go of the map
  | getCloned (key : K) (round : Nat) (notify : NotifyId)
  -- awaits a `Notified` created after `seen` calls of `notify_waiters`
  | getParked (key : K) (round : Nat) (notify : NotifyId) (seen : Nat)
  | getReturned (key : K) (res : Except (StoreError E) (Option TokenEntry))
  -- `set`: about to create its `Notify` and the `Updating` state
  | setStart (key : K)
  -- about to call `get_async`
  | setCheck (key : K) (notify : NotifyId) (id : BitVec 32)
  -- found no update in progress, about to call `upsert_async`
  | setUpsert (key : K) (notify : NotifyId) (id : BitVec 32)
  -- awaits the caller's future
  | setRunning (key : K) (notify : NotifyId) (id : BitVec 32)
  -- the future's result is in a new `Arc`, about to call `update_async`
  | setWrite (key : K) (notify : NotifyId) (arc : ArcId) (res : Except (StoreError E) Unit)
  -- about to call `notify_waiters`
  | setNotify (key : K) (notify : NotifyId) (arc : ArcId) (res : Except (StoreError E) Unit)
  | setReturned (key : K) (res : Except (StoreError E) TokenEntry)
  | dropped
  deriving Repr

/-- A call can be dropped by its caller where it awaits: in a map call, on its `Notified`,
on the caller's future. -/
def Call.atAwait {K V E : Type} : Call K V E → Bool
  | .getRead .. | .getParked .. | .setCheck .. | .setUpsert .. | .setRunning .. | .setWrite .. =>
    true
  | _ => false

/-- The store, the `Notify`s and all calls on it. -/
structure State (K V E : Type) where
  map : K → Option ArcId
  arcs : List (TokenState V)
  -- `TOKEN_COUNTER`
  tokenCounter : CounterU32
  nextNotify : NotifyId
  -- how often `notify_waiters` has been called on each `Notify`
  notified : NotifyId → Nat
  calls : TaskId → Call K V E

/-- `TokenStore::new` before any call. -/
def State.new (K V E : Type) : State K V E where
  map := fun _ => none
  arcs := []
  tokenCounter := .new 32
  nextNotify := 0
  notified := fun _ => 0
  calls := fun _ => .idle

/-- What a schedule is made of. -/
inductive Act (K V E : Type) where
  | get (t : TaskId) (key : K)
  | set (t : TaskId) (key : K)
  -- call `t` takes its next step
  | advance (t : TaskId)
  -- the future passed to the `set` call `t` completes
  | resolve (t : TaskId) (res : Except E V)
  -- the caller of `t` drops it
  | drop (t : TaskId)
  deriving DecidableEq, Repr

variable {K V E : Type} [DecidableEq K]

namespace State

/-- The entry a map call on `key` finds. -/
def entry (s : State K V E) (key : K) : Option (ArcId × TokenState V) :=
  (s.map key).bind fun arc => (s.arcs[arc]?).map fun ts => (arc, ts)

def setCall (s : State K V E) (t : TaskId) (c : Call K V E) : State K V E :=
  { s with calls := Function.update s.calls t c }

/-- One round of `get`: what the state of the entry read makes of the call. -/
def readEntry (s : State K V E) (key : K) (round : Nat) : Call K V E :=
  match s.entry key with
  | none => .getReturned key (.ok none)
  | some (arc, ts) =>
    match ts.state with
    | .ready _ => .getReturned key (.ok (some (TokenEntry.newUnchecked arc)))
    | .failed => .getReturned key (.error (.readError ts.id))
    | .updating notify => .getCloned key round notify

/-- The end of the body of `for _ in 1..10`; after the last round `get` answers `Ok(None)`. -/
def nextRound (key : K) (round : Nat) : Call K V E :=
  if round + 1 < 10 then .getRead key (round + 1) else .getReturned key (.ok none)

/-- `set` up to its first map call: a fresh `Notify` and `TokenState::new`. -/
def begin (s : State K V E) (t : TaskId) (key : K) : State K V E :=
  let (id, tokenCounter) := s.tokenCounter.increment
  { s with
    tokenCounter := tokenCounter
    nextNotify := s.nextNotify + 1
    calls := Function.update s.calls t (.setCheck key s.nextNotify id) }

/-- `set`'s look at the entry, made while `get_async`'s guard is held. -/
def checkEntry (s : State K V E) (key : K) (notify : NotifyId) (id : BitVec 32) : Call K V E :=
  match s.entry key with
  | some (_, ts) =>
    if ts.isUpdating then .setReturned key (.error (.updateAlredyInProgress ts.id))
    else .setUpsert key notify id
  | none => .setUpsert key notify id

/-- `upsert_async(key, Arc::new(new_token_state))`. -/
def upsert (s : State K V E) (t : TaskId) (key : K) (notify : NotifyId) (id : BitVec 32) :
    State K V E :=
  { s with
    map := Function.update s.map key (some s.arcs.length)
    arcs := s.arcs ++ [⟨id, .updating notify⟩]
    calls := Function.update s.calls t (.setRunning key notify id) }

/-- The state and the result `set` makes of what its future resolved to. -/
def outcome : Except E V → TokenStateInner V × Except (StoreError E) Unit
  | .ok value => (.ready value, .ok ())
  | .error err => (.failed, .error (.innerFutureError err))

/-- The caller's future resolves: its result goes into a new `Arc` under the call's id. -/
def resolveFuture (s : State K V E) (t : TaskId) (key : K) (notify : NotifyId) (id : BitVec 32)
    (res : Except E V) : State K V E :=
  { s with
    arcs := s.arcs ++ [⟨id, (outcome res).1⟩]
    calls := Function.update s.calls t (.setWrite key notify s.arcs.length (outcome res).2) }

/-- `update_async(&key, |_, v| *v = token_state)`: an absent key is left absent. -/
def write (s : State K V E) (t : TaskId) (key : K) (notify : NotifyId) (arc : ArcId)
    (res : Except (StoreError E) Unit) : State K V E :=
  { s with
    map := if (s.map key).isSome then Function.update s.map key (some arc) else s.map
    calls := Function.update s.calls t (.setNotify key notify arc res) }

/-- `notify.notify_waiters()` and the return of `set`. -/
def notifyWaiters (s : State K V E) (t : TaskId) (key : K) (notify : NotifyId) (arc : ArcId)
    (res : Except (StoreError E) Unit) : State K V E :=
  { s with
    notified := Function.update s.notified notify (s.notified notify + 1)
    calls := Function.update s.calls t
      (.setReturned key (res.map fun _ => TokenEntry.newUnchecked arc)) }

/-- The next step of call `t`, where it can take one by itself. -/
def advance (s : State K V E) (t : TaskId) : Option (State K V E) :=
  match s.calls t with
  | .getRead key round => some (s.setCall t (s.readEntry key round))
  | .getCloned key round notify =>
    some (s.setCall t (.getParked key round notify (s.notified notify)))
  | .getParked key round notify seen =>
    if seen < s.notified notify then some (s.setCall t (nextRound key round)) else none
  | .setStart key => some (s.begin t key)
  | .setCheck key notify id => some (s.setCall t (s.checkEntry key notify id))
  | .setUpsert key notify id => some (s.upsert t key notify id)
  | .setWrite key notify arc res => some (s.write t key notify arc res)
  | .setNotify key notify arc res => some (s.notifyWaiters t key notify arc res)
  | _ => none

end State

/-- One step of the system. -/
def step (s : State K V E) : Act K V E → Option (State K V E)
  | .get t key =>
    match s.calls t with
    | .idle => some (s.setCall t (.getRead key 1))
    | _ => none
  | .set t key =>
    match s.calls t with
    | .idle => some (s.setCall t (.setStart key))
    | _ => none
  | .advance t => s.advance t
  | .resolve t res =>
    match s.calls t with
    | .setRunning key notify id => some (s.resolveFuture t key notify id res)
    | _ => none
  | .drop t => if (s.calls t).atAwait then some (s.setCall t .dropped) else none

/-- The store and any number of concurrent `get` and `set` calls on it. -/
def system (K V E : Type) [DecidableEq K] : System (State K V E) (Act K V E) where
  init := .new K V E
  step := step

end UnifyAir.TokenStore
