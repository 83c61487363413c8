import UnifyAir.Counter
import UnifyAir.Manager.Calls
import UnifyAir.Ngap.Spec

/-!
# UnifyAir — the InitialUEMessage handlers of one gNB

`app/src/ngap/core/initial_ue_message.rs`. `run_ngap_loop` spawns one task per message, and
the handler of an InitialUEMessage checks that no UE context has the message's RAN UE NGAP ID,
takes an AMF UE NGAP ID from the generator of its gNB context, adds a UE context with
`add_context`, and has the message's NAS PDU handled with `with_context`.

The system is the `ContextManager` of one gNB context together with the handlers that use it:
`Handler` is the program counter of a handler with its locals, and the calls a handler makes
are calls of the manager under ids of their own. Nothing else uses this manager, so nobody
changes an id; `handle_nas` does nothing yet, so its closure does not write.

`increments` is a history of the generator: who took which id, in order.
-/

namespace UnifyAir.InitialUe

open Concurrency
open Manager (TaskId QueueId)
open Ngap (ConnId)

abbrev HandlerId := Nat
abbrev RanUeNgapId := UInt32
abbrev AmfUeNgapId := BitVec 64
/-- By its index in the enumeration. -/
abbrev RrcEstablishmentCause := Nat
abbrev NasPdu := List UInt8

/-- `InitialUeMessage`, as far as its handler reads it. -/
structure InitialUeMessage where
  ranUeNgapId : RanUeNgapId
  nasPdu : NasPdu
  rrcEstablishmentCause : RrcEstablishmentCause
  fiveGSTmsi : Option NgapFiveGSTmsi
  deriving DecidableEq, Repr

/-- `UeContext`, the fields its constructor is given. The gNB context is named by its
connection. -/
structure UeContext where
  ranUeNgapId : RanUeNgapId
  amfUeNgapId : AmfUeNgapId
  rrcEstablishmentCause : RrcEstablishmentCause
  gnbContext : ConnId
  fiveGSTmsi : Option FiveGSTmsi
  deriving DecidableEq, Repr

instance : Manager.Identifiable UeContext RanUeNgapId where
  id ctx := ctx.ranUeNgapId

/-- The `UeContext::new` of the handler. -/
def UeContext.ofRequest (gnb : ConnId) (request : InitialUeMessage) (amfUeNgapId : AmfUeNgapId) :
    UeContext where
  ranUeNgapId := request.ranUeNgapId
  amfUeNgapId := amfUeNgapId
  rrcEstablishmentCause := request.rrcEstablishmentCause
  gnbContext := gnb
  fiveGSTmsi := request.fiveGSTmsi.map .ofNgap

/-- `UeContextAlreadyExistsError`. -/
inductive UeContextAlreadyExistsError where
  | initialUeMessage (request : InitialUeMessage)
  | ueContext (ctx : UeContext)
  deriving DecidableEq, Repr

/-- `InitialUeMessageError`. -/
inductive InitialUeMessageError where
  | ueContextAlreadyExists (err : UeContextAlreadyExistsError)
  | ueContextNotFound (id : RanUeNgapId)
  deriving DecidableEq, Repr

/-- The locals of a handler from `add_context` on: its message, the UE context it has made of
it, and the queue `add_context` has made of that. -/
structure Work where
  request : InitialUeMessage
  ctx : UeContext
  queue : QueueId
  deriving DecidableEq, Repr

/-- Where a handler stands. -/
inductive Handler where
  | idle
  -- about to call `contains_context`
  | check (request : InitialUeMessage)
  -- about to take an id and make the UE context
  | alloc (request : InitialUeMessage)
  -- about to call `add_context`
  | add (request : InitialUeMessage) (ctx : UeContext)
  -- awaits `add_context`
  | adding (w : Work)
  -- about to call `with_context`
  | schedule (w : Work)
  -- awaits `with_context`
  | scheduling (w : Work)
  -- returned `Ok(EmptyResponse)`
  | succeeded (w : Work)
  -- returned this error, with an empty failure
  | failed (err : InitialUeMessageError)
  -- panicked in `add_context` or `with_context`
  | aborted (w : Work)
  -- reached `unreachable!()`
  | unreachable (w : Work)
  deriving DecidableEq, Repr

structure State where
  manager : Manager.State RanUeNgapId UeContext Unit
  amfUeIdGenerator : CounterU64
  handlers : HandlerId → Handler
  -- the PDU that the closure of a `with_context` call hands to `handle_nas`
  captured : TaskId → Option NasPdu
  increments : List (HandlerId × AmfUeNgapId)

/-- `GnbContext::new` before any message. -/
def State.new : State where
  manager := .new RanUeNgapId UeContext Unit
  amfUeIdGenerator := .new 64
  handlers := fun _ => .idle
  captured := fun _ => none
  increments := []

inductive Act where
  -- the loop spawns a task for a message
  | receive (h : HandlerId) (request : InitialUeMessage)
  | check (h : HandlerId)
  | alloc (h : HandlerId)
  | add (h : HandlerId)
  -- `add_context` has come to an end
  | added (h : HandlerId)
  | schedule (h : HandlerId)
  -- `with_context` has come to an end
  | returned (h : HandlerId)
  -- a call or a processor of the manager takes its next step
  | manager (a : Manager.Act RanUeNgapId UeContext Unit)
  deriving DecidableEq, Repr

/-- The `add_context` call of a handler. -/
def addCall (h : HandlerId) : TaskId := 2 * h

/-- The `with_context` call of a handler. -/
def withCall (h : HandlerId) : TaskId := 2 * h + 1

/-- The `match` on the result of `add_context`. -/
def onAdded (w : Work) : Manager.Call RanUeNgapId UeContext Unit → Option Handler
  | .addReturned (.error (.contextAlreadyExists _ inner)) =>
    some (.failed (.ueContextAlreadyExists (.ueContext inner)))
  | .addReturned (.error _) => some (.unreachable w)
  | .addReturned (.ok ()) => some (.schedule w)
  | .addPanicked => some (.aborted w)
  | _ => none

/-- The `map_or` on the result of `with_context`. -/
def onReturned (w : Work) : Manager.Call RanUeNgapId UeContext Unit → Option Handler
  | .withReturned (.error _) => some (.failed (.ueContextNotFound w.request.ranUeNgapId))
  | .withReturned (.ok ()) => some (.succeeded w)
  | .recvPanicked => some (.aborted w)
  | _ => none

namespace State

def setHandler (s : State) (h : HandlerId) (handler : Handler) : State :=
  { s with handlers := Function.update s.handlers h handler }

/-- `contains_context`. -/
def checkContext (s : State) (request : InitialUeMessage) : Handler :=
  match s.manager.queues request.ranUeNgapId with
  | some _ => .failed (.ueContextAlreadyExists (.initialUeMessage request))
  | none => .alloc request

/-- `amf_ue_id_generator.increment()` and `UeContext::new`. -/
def allocate (s : State) (gnb : ConnId) (h : HandlerId) (request : InitialUeMessage) : State :=
  let (amfUeNgapId, generator) := s.amfUeIdGenerator.increment
  { s with
    amfUeIdGenerator := generator
    handlers := Function.update s.handlers h (.add request (.ofRequest gnb request amfUeNgapId))
    increments := s.increments ++ [(h, amfUeNgapId)] }

/-- The handler calls `add_context`, which makes the next queue. -/
def beginAdd (s : State) (h : HandlerId) (request : InitialUeMessage) (ctx : UeContext) :
    Option State :=
  (Manager.step s.manager (.addContext (addCall h) ctx)).map fun m =>
    { s with
      manager := m
      handlers := Function.update s.handlers h (.adding ⟨request, ctx, s.manager.nextQueue⟩) }

/-- The handler makes its closure and calls `with_context`. -/
def beginWith (s : State) (h : HandlerId) (w : Work) : Option State :=
  (Manager.step s.manager (.withContext (withCall h) w.request.ranUeNgapId)).map fun m =>
    { s with
      manager := m
      captured := Function.update s.captured (withCall h) (some w.request.nasPdu)
      handlers := Function.update s.handlers h (.scheduling w) }

end State

/-- One step of the system of gNB `gnb`. -/
def step (gnb : ConnId) (s : State) : Act → Option State
  | .receive h request => match s.handlers h with
    | .idle => some (s.setHandler h (.check request))
    | _ => none
  | .check h => match s.handlers h with
    | .check request => some (s.setHandler h (s.checkContext request))
    | _ => none
  | .alloc h => match s.handlers h with
    | .alloc request => some (s.allocate gnb h request)
    | _ => none
  | .add h => match s.handlers h with
    | .add request ctx => s.beginAdd h request ctx
    | _ => none
  | .added h => match s.handlers h with
    | .adding w => (onAdded w (s.manager.calls (addCall h))).map (s.setHandler h)
    | _ => none
  | .schedule h => match s.handlers h with
    | .schedule w => s.beginWith h w
    | _ => none
  | .returned h => match s.handlers h with
    | .scheduling w => (onReturned w (s.manager.calls (withCall h))).map (s.setHandler h)
    | _ => none
  | .manager a =>
    if a.isProgress then (Manager.step s.manager a).map fun m => { s with manager := m } else none

/-- One gNB and any number of concurrent InitialUEMessage handlers. -/
def system (gnb : ConnId) : System State Act where
  init := .new
  step := step gnb

/-! ## What one step can do

The step function again as an inductive relation. A step of the manager is one case here; what it
does is said by `Manager.Step`. -/

/-- The transitions of the system. -/
inductive Step (gnb : ConnId) (s : State) : Act → State → Prop where
  | receive {h : HandlerId} {request : InitialUeMessage} (hh : s.handlers h = .idle) :
      Step gnb s (.receive h request) (s.setHandler h (.check request))
  | check {h : HandlerId} {request : InitialUeMessage} (hh : s.handlers h = .check request) :
      Step gnb s (.check h) (s.setHandler h (s.checkContext request))
  | alloc {h : HandlerId} {request : InitialUeMessage} (hh : s.handlers h = .alloc request) :
      Step gnb s (.alloc h) (s.allocate gnb h request)
  | add {h : HandlerId} {request : InitialUeMessage} {ctx : UeContext}
      (hh : s.handlers h = .add request ctx) (hidle : s.manager.calls (addCall h) = .idle) :
      Step gnb s (.add h)
        { s with
          manager := s.manager.newQueue (addCall h) ctx
          handlers := Function.update s.handlers h (.adding ⟨request, ctx, s.manager.nextQueue⟩) }
  | added {h : HandlerId} {w : Work} {handler : Handler} (hh : s.handlers h = .adding w)
      (hres : onAdded w (s.manager.calls (addCall h)) = some handler) :
      Step gnb s (.added h) (s.setHandler h handler)
  | schedule {h : HandlerId} {w : Work} (hh : s.handlers h = .schedule w)
      (hidle : s.manager.calls (withCall h) = .idle) :
      Step gnb s (.schedule h)
        { s with
          manager := s.manager.setCall (withCall h) (.withRead w.request.ranUeNgapId)
          captured := Function.update s.captured (withCall h) (some w.request.nasPdu)
          handlers := Function.update s.handlers h (.scheduling w) }
  | returned {h : HandlerId} {w : Work} {handler : Handler} (hh : s.handlers h = .scheduling w)
      (hres : onReturned w (s.manager.calls (withCall h)) = some handler) :
      Step gnb s (.returned h) (s.setHandler h handler)
  | manager {a : Manager.Act RanUeNgapId UeContext Unit}
      {m : Manager.State RanUeNgapId UeContext Unit} (hact : a.isProgress = true)
      (hstep : Manager.step s.manager a = some m) :
      Step gnb s (.manager a) { s with manager := m }

/-- The inversion of the step function, one case for each action of a handler and one for the
manager. -/
theorem step_cases {gnb : ConnId} {s s' : State} {a : Act} (h : step gnb s a = some s') :
    Step gnb s a s' := by
  cases a with
  | receive id request =>
    simp only [step] at h
    split at h
    · next hh => cases h; exact .receive hh
    · cases h
  | check id =>
    simp only [step] at h
    split at h
    · next hh => cases h; exact .check hh
    · cases h
  | alloc id =>
    simp only [step] at h
    split at h
    · next hh => cases h; exact .alloc hh
    · cases h
  | add id =>
    simp only [step] at h
    split at h
    · next hh =>
      obtain ⟨m, hm, rfl⟩ := Option.map_eq_some_iff.mp h
      cases Manager.step_cases hm with
      | addContext hidle => exact .add hh hidle
    · cases h
  | added id =>
    simp only [step] at h
    split at h
    · next hh =>
      obtain ⟨handler, hres, rfl⟩ := Option.map_eq_some_iff.mp h
      exact .added hh hres
    · cases h
  | schedule id =>
    simp only [step] at h
    split at h
    · next hh =>
      obtain ⟨m, hm, rfl⟩ := Option.map_eq_some_iff.mp h
      cases Manager.step_cases hm with
      | withContext hidle => exact .schedule hh hidle
    · cases h
  | returned id =>
    simp only [step] at h
    split at h
    · next hh =>
      obtain ⟨handler, hres, rfl⟩ := Option.map_eq_some_iff.mp h
      exact .returned hh hres
    · cases h
  | manager a =>
    simp only [step] at h
    split at h
    · next hact =>
      obtain ⟨m, hm, rfl⟩ := Option.map_eq_some_iff.mp h
      exact .manager hact hm
    · cases h

end UnifyAir.InitialUe
