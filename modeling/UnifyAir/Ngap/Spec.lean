import UnifyAir.Concurrency.System
import UnifyAir.Ngap.NgSetup

/-!
# UnifyAir — NGAP connections as a transition system

`app/src/ngap/engine/controller.rs`. Every accepted SCTP connection runs
`start_ngap_processing` in a task of its own: up to `INITIALIZATION_RETRIES` attempts at NG
Setup, the insert into `gnb_contexts`, and then a spawned task with `run_ngap_loop` and, when
the loop ends with `Ok`, `close_ran_connection`.

All connections share `gnb_contexts`. A step of the system is one call on that map, or what a
connection does between two `await`s; what the gNB sends, what the socket reports and which
configuration is in force are in the action. `Conn` is the program counter of one connection
with its locals. A connection is named by the id of its `TnlaAssociation`.
-/

namespace UnifyAir.Ngap

open Concurrency

abbrev ConnId := Nat

def initializationRetries : Nat := 3

/-- `GnbContext`, as far as setup and registration use it. -/
structure GnbContext (G : Type) where
  tnla : ConnId
  globalRanNodeId : G
  name : String
  defaultPagingDrx : PagingDrx
  deriving DecidableEq, Repr

variable {G : Type}

/-- The gNB context after the handler has filled in the fields of the request. -/
def GnbContext.ofRequest (tnla : ConnId) (request : NgSetupRequest G) : GnbContext G where
  tnla := tnla
  globalRanNodeId := request.globalRanNodeId
  name := resolveRanName request.ranNodeName request.extendedRanNodeName
  defaultPagingDrx := request.defaultPagingDrx

/-- `NgapSetupError`. -/
inductive NgapSetupError (G : Type) where
  | networkError
  | perCodecEncodingError
  | writeError
  | didNotReceiveNgSetup
  | ngSetupError (err : NgSetupError G)
  | socketClosed
  deriving DecidableEq, Repr

/-- The PDUs `try_ng_setup` answers with. -/
inductive NgapPdu where
  | ngSetupResponse (resp : NgSetupResponse)
  | ngSetupFailure (failure : NgSetupFailure)
  | errorIndication (cause : Cause)
  deriving DecidableEq, Repr

/-- What a read during setup gives, after `decode_ngap_pdu`. -/
inductive SetupRead (G : Type) where
  | error
  | closed
  | undecodable
  | otherPdu
  | ngSetupRequest (request : NgSetupRequest G)
  deriving DecidableEq, Repr

/-- What a read of `run_ngap_loop` gives. -/
inductive LoopRead where
  | message
  | closed
  | error
  deriving DecidableEq, Repr

/-- Where a connection stands. -/
inductive Conn (G : Type) where
  | idle
  -- `try_ng_setup` in attempt `attempt`: about to read
  | reading (attempt : Nat)
  -- about to call `contains_async`
  | checking (attempt : Nat) (request : NgSetupRequest G)
  -- found no conflict, awaits the global app context
  | evaluating (attempt : Nat) (ctx : GnbContext G) (list : NonEmpty SupportedTaItem)
  -- about to write its answer
  | writing (attempt : Nat) (pdu : NgapPdu) (result : Except (NgapSetupError G) (GnbContext G))
  -- set up, about to call `insert_async`
  | inserting (ctx : GnbContext G)
  -- inserted, about to spawn the loop
  | spawning (ctx : GnbContext G)
  | looping (ctx : GnbContext G)
  -- the loop ended with `Ok`, about to call `remove_async`
  | closing (ctx : GnbContext G)
  -- the spawned task is over
  | finished (ctx : GnbContext G)
  -- no attempt succeeded
  | setupFailed
  -- the `unwrap` of `insert_async` panicked
  | insertPanicked (ctx : GnbContext G)
  -- a conversion of the configuration panicked
  | panicked
  deriving DecidableEq, Repr

structure State (G : Type) where
  gnbContexts : G → Option (GnbContext G)
  conns : ConnId → Conn G

/-- `NgapContext::new` before any connection. -/
def State.new (G : Type) : State G where
  gnbContexts := fun _ => none
  conns := fun _ => .idle

inductive Act (G : Type) where
  -- the listener accepts connection `c`
  | accept (c : ConnId)
  | read (c : ConnId) (outcome : SetupRead G)
  | check (c : ConnId)
  | evaluate (c : ConnId) (config : Configuration)
  -- the answer is encoded and written, or not
  | write (c : ConnId) (written : Bool)
  | insert (c : ConnId)
  | spawn (c : ConnId)
  | loopRead (c : ConnId) (outcome : LoopRead)
  | close (c : ConnId)
  | panic (c : ConnId)
  deriving DecidableEq, Repr

/-- The end of one pass of `for attempt in 1..=INITIALIZATION_RETRIES` with an error. -/
def retry (attempt : Nat) : Conn G :=
  if attempt + 1 ≤ initializationRetries then .reading (attempt + 1) else .setupFailed

/-- What `try_ng_setup` makes of what it read. -/
def onRead (attempt : Nat) : SetupRead G → Conn G
  | .error => retry attempt
  | .closed => retry attempt
  | .undecodable =>
    .writing attempt (.errorIndication (.protocol .abstractSyntaxErrorFalselyConstructedMessage))
      (.error .perCodecEncodingError)
  | .otherPdu =>
    .writing attempt (.errorIndication (.protocol .messageNotCompatibleWithReceiverState))
      (.error .didNotReceiveNgSetup)
  | .ngSetupRequest request => .checking attempt request

/-- The answer to what the handler returned. -/
def respond (attempt : Nat) (ctx : GnbContext G) :
    Except (NgapResponseError G) NgSetupResponse → Conn G
  | .ok success => .writing attempt (.ngSetupResponse success) (.ok ctx)
  | .error ⟨failure, err⟩ =>
    .writing attempt (.ngSetupFailure failure) (.error (.ngSetupError err))

/-- The end of `try_ng_setup`: a write that fails is an error whatever the result was. -/
def onWritten (attempt : Nat) (result : Except (NgapSetupError G) (GnbContext G)) :
    Bool → Conn G
  | false => retry attempt
  | true => match result with
    | .ok ctx => .inserting ctx
    | .error _ => retry attempt

namespace State

def setConn (s : State G) (c : ConnId) (conn : Conn G) : State G :=
  { s with conns := Function.update s.conns c conn }

/-- The `contains_async` check of the handler; past it the context holds the request. -/
def checkConflict (s : State G) (c : ConnId) (attempt : Nat) (request : NgSetupRequest G) :
    Conn G :=
  match s.gnbContexts request.globalRanNodeId with
  | some _ =>
    respond attempt (.ofRequest c request) (.error (conflict request.globalRanNodeId))
  | none => .evaluating attempt (.ofRequest c request) request.supportedTaList

variable [DecidableEq G]

/-- An `insert_async` that finds its key absent. -/
def register (s : State G) (c : ConnId) (ctx : GnbContext G) : State G :=
  { s with
    gnbContexts := Function.update s.gnbContexts ctx.globalRanNodeId (some ctx)
    conns := Function.update s.conns c (.spawning ctx) }

/-- `insert_async(..).unwrap()`: a key that is present makes the `unwrap` panic. -/
def insert (s : State G) (c : ConnId) (ctx : GnbContext G) : State G :=
  match s.gnbContexts ctx.globalRanNodeId with
  | some _ => s.setConn c (.insertPanicked ctx)
  | none => s.register c ctx

/-- `close_ran_connection`. -/
def closeRanConnection (s : State G) (c : ConnId) (ctx : GnbContext G) : State G :=
  { s with
    gnbContexts := Function.update s.gnbContexts ctx.globalRanNodeId none
    conns := Function.update s.conns c (.finished ctx) }

end State

/-- One read of `run_ngap_loop`. An error ends the loop with `Err`, which the spawned task
logs before it is over. -/
def onLoopRead (ctx : GnbContext G) : LoopRead → Conn G
  | .message => .looping ctx
  | .closed => .closing ctx
  | .error => .finished ctx

variable [DecidableEq G]

/-- One step of the system. -/
def step (s : State G) : Act G → Option (State G)
  | .accept c => match s.conns c with
    | .idle => some (s.setConn c (.reading 1))
    | _ => none
  | .read c outcome => match s.conns c with
    | .reading attempt => some (s.setConn c (onRead attempt outcome))
    | _ => none
  | .check c => match s.conns c with
    | .checking attempt request => some (s.setConn c (s.checkConflict c attempt request))
    | _ => none
  | .evaluate c config => match s.conns c with
    | .evaluating attempt ctx list =>
      some (s.setConn c (respond attempt ctx (Ngap.evaluate config list)))
    | _ => none
  | .write c written => match s.conns c with
    | .writing attempt _ result => some (s.setConn c (onWritten attempt result written))
    | _ => none
  | .insert c => match s.conns c with
    | .inserting ctx => some (s.insert c ctx)
    | _ => none
  | .spawn c => match s.conns c with
    | .spawning ctx => some (s.setConn c (.looping ctx))
    | _ => none
  | .loopRead c outcome => match s.conns c with
    | .looping ctx => some (s.setConn c (onLoopRead ctx outcome))
    | _ => none
  | .close c => match s.conns c with
    | .closing ctx => some (s.closeRanConnection c ctx)
    | _ => none
  | .panic c => match s.conns c with
    | .evaluating .. => some (s.setConn c .panicked)
    | _ => none

/-- `NgapContext` and any number of concurrent connections. -/
def system (G : Type) [DecidableEq G] : System (State G) (Act G) where
  init := .new G
  step := step

/-! ## What one step can do

The step function again, as an inductive relation with the guards as hypotheses. Every invariant
below is proved by cases on it, and nothing unfolds `step` after this. -/

/-- The transitions of the system. -/
inductive Step (s : State G) : Act G → State G → Prop where
  | accept {c : ConnId} (hc : s.conns c = .idle) :
      Step s (.accept c) (s.setConn c (.reading 1))
  | read {c : ConnId} {attempt : Nat} {outcome : SetupRead G} (hc : s.conns c = .reading attempt) :
      Step s (.read c outcome) (s.setConn c (onRead attempt outcome))
  | check {c : ConnId} {attempt : Nat} {request : NgSetupRequest G}
      (hc : s.conns c = .checking attempt request) :
      Step s (.check c) (s.setConn c (s.checkConflict c attempt request))
  | evaluate {c : ConnId} {config : Configuration} {attempt : Nat} {ctx : GnbContext G}
      {list : NonEmpty SupportedTaItem} (hc : s.conns c = .evaluating attempt ctx list) :
      Step s (.evaluate c config) (s.setConn c (respond attempt ctx (Ngap.evaluate config list)))
  | write {c : ConnId} {written : Bool} {attempt : Nat} {pdu : NgapPdu}
      {result : Except (NgapSetupError G) (GnbContext G)}
      (hc : s.conns c = .writing attempt pdu result) :
      Step s (.write c written) (s.setConn c (onWritten attempt result written))
  | insertPanic {c : ConnId} {ctx other : GnbContext G} (hc : s.conns c = .inserting ctx)
      (hkey : s.gnbContexts ctx.globalRanNodeId = some other) :
      Step s (.insert c) (s.setConn c (.insertPanicked ctx))
  | insert {c : ConnId} {ctx : GnbContext G} (hc : s.conns c = .inserting ctx)
      (hkey : s.gnbContexts ctx.globalRanNodeId = none) :
      Step s (.insert c) (s.register c ctx)
  | spawn {c : ConnId} {ctx : GnbContext G} (hc : s.conns c = .spawning ctx) :
      Step s (.spawn c) (s.setConn c (.looping ctx))
  | loopRead {c : ConnId} {ctx : GnbContext G} {outcome : LoopRead}
      (hc : s.conns c = .looping ctx) :
      Step s (.loopRead c outcome) (s.setConn c (onLoopRead ctx outcome))
  | close {c : ConnId} {ctx : GnbContext G} (hc : s.conns c = .closing ctx) :
      Step s (.close c) (s.closeRanConnection c ctx)
  | panic {c : ConnId} {attempt : Nat} {ctx : GnbContext G} {list : NonEmpty SupportedTaItem}
      (hc : s.conns c = .evaluating attempt ctx list) :
      Step s (.panic c) (s.setConn c .panicked)

/-- The inversion of the step function. A case is a branch in which `step` returns a state. -/
theorem step_cases {s s' : State G} {a : Act G} (h : step s a = some s') : Step s a s' := by
  cases a with
  | accept c =>
    simp only [step] at h
    split at h
    · next hc => cases h; exact .accept hc
    · cases h
  | read c outcome =>
    simp only [step] at h
    split at h
    · next hc => cases h; exact .read hc
    · cases h
  | check c =>
    simp only [step] at h
    split at h
    · next hc => cases h; exact .check hc
    · cases h
  | evaluate c config =>
    simp only [step] at h
    split at h
    · next hc => cases h; exact .evaluate hc
    · cases h
  | write c written =>
    simp only [step] at h
    split at h
    · next hc => cases h; exact .write hc
    · cases h
  | insert c =>
    simp only [step] at h
    split at h
    · next ctx hc =>
      simp only [State.insert, Option.some.injEq] at h
      split at h
      · next hkey => cases h; exact .insertPanic hc hkey
      · next hkey => cases h; exact .insert hc hkey
    · cases h
  | spawn c =>
    simp only [step] at h
    split at h
    · next hc => cases h; exact .spawn hc
    · cases h
  | loopRead c outcome =>
    simp only [step] at h
    split at h
    · next hc => cases h; exact .loopRead hc
    · cases h
  | close c =>
    simp only [step] at h
    split at h
    · next hc => cases h; exact .close hc
    · cases h
  | panic c =>
    simp only [step] at h
    split at h
    · next hc => cases h; exact .panic hc
    · cases h

/-- The connection an action is about. -/
def Act.conn : Act G → ConnId
  | .accept c | .read c _ | .check c | .evaluate c _ | .write c _ | .insert c | .spawn c
  | .loopRead c _ | .close c | .panic c => c

theorem Step.conns_other {s s' : State G} {a : Act G} (h : Step s a s') {c : ConnId}
    (hc : c ≠ a.conn) : s'.conns c = s.conns c := by
  cases h <;> exact Function.update_of_ne hc ..

end UnifyAir.Ngap
