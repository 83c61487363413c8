import UnifyAir.InitialUe.Spec
import UnifyAir.Ngap.Retries

/-!
# UnifyAir — the message loop of a gNB

`run_ngap_loop` in `app/src/ngap/engine/controller.rs`, with `ngap_route` and the functions that
decode and encode. The loop reads one message after the other and spawns a task for each: it decodes
the message, routes it, and writes what is to be answered. Tasks do not wait for each other.

The system is the loop of one gNB with its tasks and the InitialUEMessage handlers that some of the
tasks run; the task of the `m`-th message is task `m`, and so is its handler. `ngap_models` is
outside of the repository: what its codec does is a parameter, and so are the parts of a PDU that
nothing here looks at. `sent` is a history of what was written to the gNB, and by which task.
-/

namespace UnifyAir.Ngap.Loop

open Concurrency
open InitialUe (HandlerId RanUeNgapId AmfUeNgapId InitialUeMessage InitialUeMessageError)

abbrev Bytes := List UInt8

/-! ## PDUs

What the loop looks at in a PDU, and parameters for the rest. `P` stands for messages that nothing
here looks into, `D` for the IEs of a criticality diagnostics. -/

/-- `CriticalityDiagnostics`; enumerations by their index, the IEs as `D`. -/
structure CriticalityDiagnostics (D : Type) where
  procedureCode : Option Nat
  triggeringMessage : Option Nat
  procedureCriticality : Option Nat
  iEsCriticalityDiagnostics : D
  deriving DecidableEq, Repr

/-- `ErrorIndication`, the fields that are set here. -/
structure ErrorIndication (D : Type) where
  cause : Option Cause
  criticalityDiagnostics : Option (CriticalityDiagnostics D) := none
  amfUeNgapId : Option AmfUeNgapId := none
  ranUeNgapId : Option RanUeNgapId := none
  deriving DecidableEq, Repr

/-- `InitiatingMessage`; the other messages as `P`. -/
inductive InitiatingMessage (P D : Type) where
  | initialUeMessage (pdu : InitialUeMessage)
  | errorIndication (pdu : ErrorIndication D)
  | other (pdu : P)
  deriving DecidableEq, Repr

/-- `NgapPdu`. -/
inductive NgapPdu (P D : Type) where
  | initiatingMessage (message : InitiatingMessage P D)
  | successfulOutcome (pdu : P)
  | unsuccessfulOutcome (pdu : P)
  deriving DecidableEq, Repr

variable {P D G E : Type}

def ErrorIndication.toPdu (pdu : ErrorIndication D) : NgapPdu P D :=
  .initiatingMessage (.errorIndication pdu)

/-- `ThreeGppAsn1PerError`. -/
structure ThreeGppAsn1PerError (G E : Type) where
  diagnostics : G
  codecError : E
  deriving DecidableEq, Repr

/-- What `ngap_models` does. -/
structure Codec (P D G E : Type) where
  fromBytes : Bytes → Except (ThreeGppAsn1PerError G E) (NgapPdu P D)
  codecToBytes : NgapPdu P D → Except (ThreeGppAsn1PerError G E) Bytes
  convertDiagnosticsToIe : G → D
  /-- Triggering message, procedure code and criticality. -/
  getMessageInfo : Bytes → Option Nat × Option Nat × Option Nat

/-! ## Decoding and encoding

The two functions around the codec. An error in decoding is answered with an ErrorIndication that
says as much about the message as `get_message_info` still finds out. -/

section

variable (codec : Codec P D G E)

/-- `build_criticality_diagnostics`. -/
def buildCriticalityDiagnostics (request : Bytes) (error : ThreeGppAsn1PerError G E) :
    ErrorIndication D × E :=
  let (triggeringMessage, procedureCode, procedureCriticality) := codec.getMessageInfo request
  ({ cause := some (.protocol .abstractSyntaxErrorFalselyConstructedMessage)
     criticalityDiagnostics := some
      { procedureCode
        triggeringMessage
        procedureCriticality
        iEsCriticalityDiagnostics := codec.convertDiagnosticsToIe error.diagnostics } },
    error.codecError)

/-- `decode_ngap_pdu`. -/
def decodeNgapPdu (request : Bytes) : Except (NgapPdu P D × E) (NgapPdu P D) :=
  match codec.fromBytes request with
  | .ok pdu => .ok pdu
  | .error e =>
    let (err, codecError) := buildCriticalityDiagnostics codec request e
    .error (err.toPdu, codecError)

/-- `encode_and_write_ngap_pdu`: what is written, and what is returned. -/
def encodeAndWriteNgapPdu (pdu : NgapPdu P D) (written : Bool) :
    Option Bytes × Except NgapWriteError Unit :=
  match codec.codecToBytes pdu with
  | .ok bytes => if written then (some bytes, .ok ()) else (none, .error .networkError)
  | .error _ => (none, .error .encodingError)

end

/-- `new_semantic_error`. -/
def newSemanticError (amfUeNgapId : Option AmfUeNgapId) (ranUeNgapId : Option RanUeNgapId) :
    ErrorIndication D where
  cause := some (.protocol .semanticError)
  amfUeNgapId := amfUeNgapId
  ranUeNgapId := ranUeNgapId

/-! ## Routing

One message has a handler, the InitialUEMessage. Everything else is answered with a semantic error.
-/

/-- Where `ngap_route` goes: to a handler, or to an answer. -/
inductive Route (P D : Type) where
  | handleRequest (pdu : InitialUeMessage)
  | toPdu (pdu : NgapPdu P D)
  deriving DecidableEq, Repr

/-- `ngap_route`. -/
def ngapRoute : NgapPdu P D → Route P D
  | .initiatingMessage (.initialUeMessage pdu) => .handleRequest pdu
  | .initiatingMessage _ => .toPdu (newSemanticError none none).toPdu
  | .successfulOutcome _ => .toPdu (newSemanticError none none).toPdu
  | .unsuccessfulOutcome _ => .toPdu (newSemanticError none none).toPdu

/-- `NgapFailure<Failure>`. -/
inductive NgapFailure (F D : Type) where
  | failure (failure : F)
  | genericError (error : ErrorIndication D)
  deriving DecidableEq, Repr

/-- `log_and_convert_to_pdu`. -/
def logAndConvertToPdu {T F X : Type} (successToPdu : T → Option (NgapPdu P D))
    (failureToPdu : F → Option (NgapPdu P D)) :
    Except (NgapFailure F D × X) T → Option (NgapPdu P D)
  | .ok resp => successToPdu resp
  | .error (.failure failure, _) => failureToPdu failure
  | .error (.genericError error, _) => some error.toPdu

/-- `EmptyResponse`. -/
structure EmptyResponse where
  deriving DecidableEq, Repr

def EmptyResponse.toPdu (_ : EmptyResponse) : Option (NgapPdu P D) := none

/-- What the InitialUEMessage handler returns, if it has returned. -/
def handlerResult : InitialUe.Handler →
    Option (Except (NgapFailure EmptyResponse D × InitialUeMessageError) EmptyResponse)
  | .succeeded _ => some (.ok ⟨⟩)
  | .failed err => some (.error (.failure ⟨⟩, err))
  | _ => none

/-! ## The system

A read appends a message and makes its task. Everything a task does after that is a step of its own,
so the tasks of several messages interleave, and so do their handlers. -/

/-- Where the loop stands. -/
inductive Reader where
  | looping
  -- returned `Ok(())`
  | closed
  -- returned `TnlaReadError`
  | failed
  deriving DecidableEq, Repr

/-- Where a spawned task stands. -/
inductive Task (P D : Type) where
  | idle
  -- about to decode its message
  | spawned (message : Bytes)
  -- awaits `handle_request`
  | handling
  -- about to encode and write its answer
  | responding (response : NgapPdu P D)
  -- over, without an answer
  | silent
  -- over, with this result of the write
  | written (resp : Except NgapWriteError Unit)
  | panicked
  deriving Repr

structure State (P D : Type) where
  ue : InitialUe.State
  reader : Reader
  -- what was read
  messages : List Bytes
  tasks : HandlerId → Task P D
  sent : List (HandlerId × Bytes)

def State.new (P D : Type) : State P D where
  ue := .new
  reader := .looping
  messages := []
  tasks := fun _ => .idle
  sent := []

inductive Act where
  -- `recvmsg_eor_buf` fails, or gives a message
  | read (received : Except Unit Bytes)
  | decode (m : HandlerId)
  -- a handler, or a call it makes, takes its next step
  | ue (a : InitialUe.Act)
  -- `handle_request` has come to an end
  | returned (m : HandlerId)
  | write (m : HandlerId) (written : Bool)

namespace State

def setTask (s : State P D) (m : HandlerId) (task : Task P D) : State P D :=
  { s with tasks := Function.update s.tasks m task }

/-- What the loop makes of what it reads; nothing is the end of the stream. -/
def onRead (s : State P D) : Except Unit Bytes → State P D
  | .error () => { s with reader := .failed }
  | .ok [] => { s with reader := .closed }
  | .ok message =>
    { s with
      messages := s.messages ++ [message]
      tasks := Function.update s.tasks s.messages.length (.spawned message) }

/-- The handler of a task is spawned with its message. -/
def beginHandle (gnb : ConnId) (s : State P D) (m : HandlerId) (pdu : InitialUeMessage) :
    Option (State P D) :=
  (InitialUe.step gnb s.ue (.receive m pdu)).map fun ue => { s.setTask m .handling with ue := ue }

/-- A task that has decoded its message. -/
def onDecoded (gnb : ConnId) (s : State P D) (m : HandlerId) :
    Except (NgapPdu P D × E) (NgapPdu P D) → Option (State P D)
  | .error (pdu, _) => some (s.setTask m (.responding pdu))
  | .ok pdu => match ngapRoute pdu with
    | .toPdu response => some (s.setTask m (.responding response))
    | .handleRequest pdu => s.beginHandle gnb m pdu

/-- A task with the answer that its handler gives. -/
def respond (s : State P D) (m : HandlerId) : Option (NgapPdu P D) → State P D
  | some response => s.setTask m (.responding response)
  | none => s.setTask m .silent

/-- A task whose handler has come to an end. -/
def onReturned (s : State P D) (m : HandlerId) : Option (State P D) :=
  match s.ue.handlers m with
  | .aborted _ => some (s.setTask m .panicked)
  | .unreachable _ => some (s.setTask m .panicked)
  | handler => (handlerResult handler).map fun res =>
    s.respond m (logAndConvertToPdu EmptyResponse.toPdu EmptyResponse.toPdu res)

/-- A task that writes its answer. -/
def onWrite (codec : Codec P D G E) (s : State P D) (m : HandlerId) (response : NgapPdu P D)
    (written : Bool) : State P D :=
  let (bytes, resp) := encodeAndWriteNgapPdu codec response written
  { s.setTask m (.written resp) with sent := s.sent ++ bytes.toList.map (m, ·) }

end State

/-- A step of the handlers, and not one that spawns a handler. -/
def isHandlers : InitialUe.Act → Bool
  | .receive .. => false
  | _ => true

/-- One step of the system. -/
def step (codec : Codec P D G E) (gnb : ConnId) (s : State P D) : Act → Option (State P D)
  | .read received => match s.reader with
    | .looping => some (s.onRead received)
    | _ => none
  | .decode m => match s.tasks m with
    | .spawned message => s.onDecoded gnb m (decodeNgapPdu codec message)
    | _ => none
  | .ue a =>
    if isHandlers a then (InitialUe.step gnb s.ue a).map fun ue => { s with ue := ue } else none
  | .returned m => match s.tasks m with
    | .handling => s.onReturned m
    | _ => none
  | .write m written => match s.tasks m with
    | .responding response => some (s.onWrite codec m response written)
    | _ => none

/-- The loop of one gNB. -/
def system (codec : Codec P D G E) (gnb : ConnId) : System (State P D) Act where
  init := .new P D
  step := step codec gnb

/-! ## What one step can do

The step function again as an inductive relation, with one case for every branch. -/

/-- The transitions of the system. -/
inductive Step (codec : Codec P D G E) (gnb : ConnId) (s : State P D) : Act → State P D → Prop where
  | fail (hr : s.reader = .looping) :
      Step codec gnb s (.read (.error ())) { s with reader := .failed }
  | close (hr : s.reader = .looping) : Step codec gnb s (.read (.ok [])) { s with reader := .closed }
  | message {message : Bytes} (hr : s.reader = .looping) (hne : message ≠ []) :
      Step codec gnb s (.read (.ok message))
        { s with
          messages := s.messages ++ [message]
          tasks := Function.update s.tasks s.messages.length (.spawned message) }
  | undecodable {m : HandlerId} {message : Bytes} {pdu : NgapPdu P D} {e : E}
      (hm : s.tasks m = .spawned message) (hdec : decodeNgapPdu codec message = .error (pdu, e)) :
      Step codec gnb s (.decode m) (s.setTask m (.responding pdu))
  | unhandled {m : HandlerId} {message : Bytes} {pdu response : NgapPdu P D}
      (hm : s.tasks m = .spawned message) (hdec : decodeNgapPdu codec message = .ok pdu)
      (hroute : ngapRoute pdu = .toPdu response) :
      Step codec gnb s (.decode m) (s.setTask m (.responding response))
  | handle {m : HandlerId} {message : Bytes} {pdu : NgapPdu P D} {request : InitialUeMessage}
      {ue : InitialUe.State} (hm : s.tasks m = .spawned message)
      (hdec : decodeNgapPdu codec message = .ok pdu)
      (hroute : ngapRoute pdu = .handleRequest request)
      (hue : InitialUe.step gnb s.ue (.receive m request) = some ue) :
      Step codec gnb s (.decode m) { s.setTask m .handling with ue := ue }
  | ue {a : InitialUe.Act} {ue : InitialUe.State} (ha : isHandlers a = true)
      (hue : InitialUe.step gnb s.ue a = some ue) : Step codec gnb s (.ue a) { s with ue := ue }
  | handled {m : HandlerId}
      {res : Except (NgapFailure EmptyResponse D × InitialUeMessageError) EmptyResponse}
      (hm : s.tasks m = .handling) (hres : handlerResult (s.ue.handlers m) = some res) :
      Step codec gnb s (.returned m)
        (s.respond m (logAndConvertToPdu EmptyResponse.toPdu EmptyResponse.toPdu res))
  | panic {m : HandlerId} (hm : s.tasks m = .handling) :
      Step codec gnb s (.returned m) (s.setTask m .panicked)
  | write {m : HandlerId} {written : Bool} {response : NgapPdu P D}
      (hm : s.tasks m = .responding response) :
      Step codec gnb s (.write m written) (s.onWrite codec m response written)

/-- The inversion of the step function. A read adds a message or ends the loop; a task decodes,
hands over to a handler, takes its result or writes; and a handler moves as it does in `InitialUe`.
-/
theorem step_cases {codec : Codec P D G E} {gnb : ConnId} {s s' : State P D} {a : Act}
    (h : step codec gnb s a = some s') : Step codec gnb s a s' := by
  cases a with
  | read received =>
    simp only [step] at h
    split at h
    · next hr =>
      cases h
      rcases received with ⟨⟩ | _ | ⟨octet, rest⟩
      · exact .fail hr
      · exact .close hr
      · exact .message hr (List.cons_ne_nil octet rest)
    · cases h
  | decode m =>
    simp only [step] at h
    split at h
    · next message hm =>
      cases hdec : decodeNgapPdu codec message with
      | error err =>
        rw [hdec] at h
        cases h
        exact .undecodable hm hdec
      | ok pdu =>
        rw [hdec] at h
        cases hroute : ngapRoute pdu with
        | toPdu response =>
          simp only [State.onDecoded, hroute] at h
          cases h
          exact .unhandled hm hdec hroute
        | handleRequest request =>
          simp only [State.onDecoded, hroute] at h
          obtain ⟨ue, hue, rfl⟩ := Option.map_eq_some_iff.mp h
          exact .handle hm hdec hroute hue
    · cases h
  | ue a =>
    simp only [step] at h
    split at h
    · next ha =>
      obtain ⟨ue, hue, rfl⟩ := Option.map_eq_some_iff.mp h
      exact .ue ha hue
    · cases h
  | returned m =>
    simp only [step] at h
    split at h
    · next hm =>
      unfold State.onReturned at h
      split at h
      · cases h
        exact .panic hm
      · cases h
        exact .panic hm
      · obtain ⟨res, hres, rfl⟩ := Option.map_eq_some_iff.mp h
        exact .handled hm hres
    · cases h
  | write m written =>
    simp only [step] at h
    split at h
    · next hm =>
      cases h
      exact .write hm
    · cases h

/-! ## Before the first message

Nothing runs before the first read. This is where a run without reads ends, and the induction on
them begins. -/

theorem handlers_step_new {gnb : ConnId} {a : InitialUe.Act} (ha : isHandlers a = true) :
    InitialUe.step gnb .new a = none := by
  cases a with
  | receive => cases ha
  | check | alloc | add | added | schedule | returned => rfl
  | manager a => cases a <;> rfl

/-- A loop that has read nothing does nothing but read. -/
theorem step_new {codec : Codec P D G E} {gnb : ConnId} {a : Act}
    (ha : ∀ received, a ≠ .read received) : step codec gnb (.new P D) a = none := by
  cases a with
  | read received => exact absurd rfl (ha received)
  | decode | returned | write => rfl
  | ue a =>
    simp only [step]
    split
    · next h => exact Option.map_eq_none_iff.mpr (handlers_step_new h)
    · rfl

end UnifyAir.Ngap.Loop
