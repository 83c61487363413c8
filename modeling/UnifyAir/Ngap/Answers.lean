import UnifyAir.InitialUe.Winner
import UnifyAir.Ngap.Loop

/-!
# UnifyAir — what a gNB is answered

The tasks of a loop write to the gNB in any order. Whatever the order, what a task writes depends on
its message alone: an InitialUEMessage is never answered, and any other message, and one that cannot
be decoded, with one ErrorIndication, unless the write of it fails.

* **`answered_of_run`** — what was written for each message, after any run.
* **`handlers_of_run`** — which handlers were spawned; they run as they do by themselves.
* **`one_context_of_run`** — of the messages with one RAN UE NGAP ID, one gets the UE context.
-/

namespace UnifyAir.Ngap.Loop

open Concurrency
open InitialUe (HandlerId InitialUeMessage)

variable {P D G E : Type}

/-! ## The answer to a message

`answer` says what is to be written for a message, without any system. The lemmas here say that each
way through `ngap_route` leads to it. -/

/-- The answer to a message, if there is one. -/
def answer (codec : Codec P D G E) (message : Bytes) : Option (NgapPdu P D) :=
  match codec.fromBytes message with
  | .error e => some (buildCriticalityDiagnostics codec message e).1.toPdu
  | .ok (.initiatingMessage (.initialUeMessage _)) => none
  | .ok _ => some (newSemanticError none none).toPdu

/-- A message is the InitialUEMessage of a request. -/
def Carries (codec : Codec P D G E) (message : Bytes) (request : InitialUeMessage) : Prop :=
  codec.fromBytes message = .ok (.initiatingMessage (.initialUeMessage request))

/-- A message that cannot be decoded is answered with what `decode_ngap_pdu` returns. -/
theorem answer_undecodable {codec : Codec P D G E} {message : Bytes} {pdu : NgapPdu P D} {e : E}
    (h : decodeNgapPdu codec message = .error (pdu, e)) : answer codec message = some pdu := by
  unfold decodeNgapPdu at h
  unfold answer
  cases hfrom : codec.fromBytes message with
  | error err =>
    rw [hfrom] at h
    cases h
    rfl
  | ok pdu =>
    rw [hfrom] at h
    cases h

/-- A message that is decoded is decoded by the codec. -/
theorem fromBytes_of_decode {codec : Codec P D G E} {message : Bytes} {pdu : NgapPdu P D}
    (h : decodeNgapPdu codec message = .ok pdu) : codec.fromBytes message = .ok pdu := by
  unfold decodeNgapPdu at h
  cases hfrom : codec.fromBytes message with
  | error err =>
    rw [hfrom] at h
    cases h
  | ok decoded =>
    rw [hfrom] at h
    cases h
    rfl

/-- A message that is routed to no handler is answered with what the route says. -/
theorem answer_unhandled {codec : Codec P D G E} {message : Bytes} {pdu response : NgapPdu P D}
    (hdec : decodeNgapPdu codec message = .ok pdu) (hroute : ngapRoute pdu = .toPdu response) :
    answer codec message = some response := by
  unfold answer
  rw [fromBytes_of_decode hdec]
  match pdu, hroute with
  | .initiatingMessage (.errorIndication _), rfl => rfl
  | .initiatingMessage (.other _), rfl => rfl
  | .successfulOutcome _, rfl => rfl
  | .unsuccessfulOutcome _, rfl => rfl

/-- A message that is routed to the handler is an InitialUEMessage. -/
theorem carries_of_route {codec : Codec P D G E} {message : Bytes} {pdu : NgapPdu P D}
    {request : InitialUeMessage} (hdec : decodeNgapPdu codec message = .ok pdu)
    (hroute : ngapRoute pdu = .handleRequest request) : Carries codec message request := by
  unfold Carries
  rw [fromBytes_of_decode hdec]
  match pdu, hroute with
  | .initiatingMessage (.initialUeMessage _), rfl => rfl

theorem Carries.answer {codec : Codec P D G E} {message : Bytes} {request : InitialUeMessage}
    (h : Carries codec message request) : answer codec message = none := by
  unfold Loop.answer
  rw [h]

/-- A handler gives no answer, whether it succeeds or fails: both have the empty response. -/
theorem handlerResult_toPdu
    (res : Except (NgapFailure EmptyResponse D × InitialUe.InitialUeMessageError) EmptyResponse)
    {handler : InitialUe.Handler} (h : handlerResult handler = some res) :
    logAndConvertToPdu (P := P) EmptyResponse.toPdu EmptyResponse.toPdu res = none := by
  cases handler with
  | succeeded w =>
    cases h
    rfl
  | failed err =>
    cases h
    rfl
  | idle | check | alloc | add | adding | schedule | scheduling | aborted | unreachable => cases h

/-! ## A task and its message

The invariant is local: every task stands where its own message can have brought it, with what it
has written so far. So a step needs to look at one task only. -/

/-- What a task has written. -/
def State.sentBy (s : State P D) (m : HandlerId) : List Bytes :=
  s.sent.filterMap fun e => if e.1 = m then some e.2 else none

/-- The bytes that one task writes are only its own. What was sent is a list of pairs, of a
message's number and bytes, and a write adds one pair or none. -/
theorem sentBy_onWrite (codec : Codec P D G E) (s : State P D) (m m' : HandlerId)
    (response : NgapPdu P D) (written : Bool) :
    (s.onWrite codec m response written).sentBy m' =
      s.sentBy m' ++
        if m = m' then (encodeAndWriteNgapPdu codec response written).1.toList else [] := by
  unfold State.sentBy
  show (s.sent ++ (encodeAndWriteNgapPdu codec response written).1.toList.map (m, ·)).filterMap _ = _
  rw [List.filterMap_append]
  refine congrArg _ ?_
  cases (encodeAndWriteNgapPdu codec response written).1 with
  | none => simp
  | some bytes =>
    rw [Option.toList_some, List.map_cons, List.map_nil, List.filterMap_cons, List.filterMap_nil]
    by_cases h : m = m'
    · rw [if_pos h, if_pos h]
    · rw [if_neg h, if_neg h]

/-- Where a task stands with its message, and what it has written. -/
inductive Stands (codec : Codec P D G E) : Option Bytes → Task P D → List Bytes → Prop where
  | idle : Stands codec none .idle []
  | spawned (message : Bytes) : Stands codec (some message) (.spawned message) []
  | handling {message : Bytes} {request : InitialUeMessage} (h : Carries codec message request) :
      Stands codec (some message) .handling []
  | responding {message : Bytes} {response : NgapPdu P D} (h : answer codec message = some response) :
      Stands codec (some message) (.responding response) []
  | silent {message : Bytes} (h : answer codec message = none) :
      Stands codec (some message) .silent []
  | failed {message : Bytes} (err : NgapWriteError) :
      Stands codec (some message) (.written (.error err)) []
  | written {message bytes : Bytes} {response : NgapPdu P D}
      (h : answer codec message = some response) (hbytes : codec.codecToBytes response = .ok bytes) :
      Stands codec (some message) (.written (.ok ())) [bytes]
  | panicked {message : Bytes} (h : answer codec message = none) :
      Stands codec (some message) .panicked []

/-- Every task. -/
def Kept (codec : Codec P D G E) (s : State P D) : Prop :=
  ∀ m, Stands codec s.messages[m]? (s.tasks m) (s.sentBy m)

variable {codec : Codec P D G E}

theorem kept_new : Kept codec (.new P D) := fun _ => .idle

/-- The task of a message moves on and writes nothing. -/
theorem Kept.setTask {s : State P D} (h : Kept codec s) {m : HandlerId} {task : Task P D}
    (hm : Stands codec s.messages[m]? task (s.sentBy m)) : Kept codec (s.setTask m task) := by
  intro m'
  by_cases heq : m' = m
  · subst heq
    show Stands codec s.messages[m']? (Function.update s.tasks m' task m') (s.sentBy m')
    rw [Function.update_self]
    exact hm
  · show Stands codec s.messages[m']? (Function.update s.tasks m task m') (s.sentBy m')
    rw [Function.update_of_ne heq]
    exact h m'

/-- A task that has not decoded its message has written nothing. -/
theorem Kept.spawned {s : State P D} (h : Kept codec s) {m : HandlerId} {message : Bytes}
    (hm : s.tasks m = .spawned message) :
    s.messages[m]? = some message ∧ s.sentBy m = [] := by
  have hstands := h m
  rw [hm] at hstands
  generalize s.messages[m]? = read at hstands ⊢
  generalize s.sentBy m = sent at hstands ⊢
  cases hstands with
  | spawned => exact ⟨rfl, rfl⟩

/-- A task that waits for its handler has an InitialUEMessage. -/
theorem Kept.handling {s : State P D} (h : Kept codec s) {m : HandlerId}
    (hm : s.tasks m = .handling) :
    ∃ message, s.messages[m]? = some message ∧ answer codec message = none ∧ s.sentBy m = [] := by
  have hstands := h m
  rw [hm] at hstands
  generalize s.messages[m]? = read at hstands ⊢
  generalize s.sentBy m = sent at hstands ⊢
  cases hstands with
  | handling hcarries => exact ⟨_, rfl, hcarries.answer, rfl⟩

/-- A task that is about to write has the answer to its message in its hands. -/
theorem Kept.responding {s : State P D} (h : Kept codec s) {m : HandlerId}
    {response : NgapPdu P D} (hm : s.tasks m = .responding response) :
    ∃ message, s.messages[m]? = some message ∧ answer codec message = some response ∧
      s.sentBy m = [] := by
  have hstands := h m
  rw [hm] at hstands
  generalize s.messages[m]? = read at hstands ⊢
  generalize s.sentBy m = sent at hstands ⊢
  cases hstands with
  | responding hanswer => exact ⟨_, rfl, hanswer, rfl⟩

/-- A task that has its answer encoded and written, or not. The two ways in which this can fail are
told apart. -/
theorem stands_write {message : Bytes} {response : NgapPdu P D}
    (h : answer codec message = some response) (written : Bool) :
    Stands codec (some message) (.written (encodeAndWriteNgapPdu codec response written).2)
      (encodeAndWriteNgapPdu codec response written).1.toList := by
  unfold encodeAndWriteNgapPdu
  cases hbytes : codec.codecToBytes response with
  | error err => exact .failed .encodingError
  | ok bytes =>
    cases written with
    | false => exact .failed .networkError
    | true => exact .written h hbytes

/-- Every step keeps every task with its message. The cases are the steps of one task, but for the
read, which adds a message at the end. -/
theorem Kept.step {gnb : ConnId} {s s' : State P D} {a : Act} (h : Kept codec s)
    (hstep : Step codec gnb s a s') : Kept codec s' := by
  -- only the task that moves can break it
  cases hstep with
  | fail | close | ue => exact h
  | @message message hr hne =>
    intro m
    rcases lt_trichotomy m s.messages.length with hlt | rfl | hgt
    · show Stands codec (s.messages ++ [message])[m]?
        (Function.update s.tasks s.messages.length _ m) (s.sentBy m)
      rw [List.getElem?_append_left hlt, Function.update_of_ne (Nat.ne_of_lt hlt)]
      exact h m
    · -- the new message: its task was idle
      have hidle := h s.messages.length
      rw [List.getElem?_eq_none (Nat.le_refl _)] at hidle
      show Stands codec (s.messages ++ [message])[s.messages.length]?
        (Function.update s.tasks s.messages.length _ s.messages.length) (s.sentBy s.messages.length)
      rw [Function.update_self, List.getElem?_append_right (Nat.le_refl _), Nat.sub_self]
      generalize s.sentBy s.messages.length = sent at hidle ⊢
      generalize s.tasks s.messages.length = task at hidle
      cases hidle
      exact .spawned message
    · -- numbers that are not in use yet stay so
      have hbehind := h m
      rw [List.getElem?_eq_none (Nat.le_of_lt hgt)] at hbehind
      show Stands codec (s.messages ++ [message])[m]?
        (Function.update s.tasks s.messages.length _ m) (s.sentBy m)
      rw [List.getElem?_eq_none (by rw [List.length_append]; exact hgt),
        Function.update_of_ne (Nat.ne_of_gt hgt)]
      exact hbehind
  | @undecodable m message pdu e hm hdec =>
    obtain ⟨hread, hsent⟩ := h.spawned hm
    refine h.setTask ?_
    rw [hread, hsent]
    exact .responding (answer_undecodable hdec)
  | @unhandled m message pdu response hm hdec hroute =>
    obtain ⟨hread, hsent⟩ := h.spawned hm
    refine h.setTask ?_
    rw [hread, hsent]
    exact .responding (answer_unhandled hdec hroute)
  | @handle m message pdu request ue hm hdec hroute hue =>
    obtain ⟨hread, hsent⟩ := h.spawned hm
    have hnext : Kept codec (s.setTask m .handling) := by
      refine h.setTask ?_
      rw [hread, hsent]
      exact .handling (carries_of_route hdec hroute)
    exact hnext
  | @handled m res hm hres =>
    obtain ⟨message, hread, hanswer, hsent⟩ := h.handling hm
    rw [handlerResult_toPdu res hres]
    refine h.setTask ?_
    rw [hread, hsent]
    exact .silent hanswer
  | @panic m hm =>
    obtain ⟨message, hread, hanswer, hsent⟩ := h.handling hm
    refine h.setTask ?_
    rw [hread, hsent]
    exact .panicked hanswer
  | @write m written response hm =>
    obtain ⟨message, hread, hanswer, hsent⟩ := h.responding hm
    intro m'
    rw [sentBy_onWrite]
    show Stands codec s.messages[m']? (Function.update s.tasks m _ m') _
    -- what this task writes is not counted for another one
    by_cases heq : m' = m
    · subst heq
      rw [Function.update_self, hread, hsent, List.nil_append, if_pos rfl]
      exact stands_write hanswer written
    · rw [Function.update_of_ne heq, if_neg (Ne.symm heq), List.append_nil]
      exact h m'

theorem kept_of_run {gnb : ConnId} {as : List Act} {s : State P D}
    (run : (system codec gnb).Run as s) : Kept codec s :=
  run.invariant kept_new fun _ _ _ _ _ hkept _ hstep => hkept.step (step_cases hstep)

/-- What is written for a message, and where its task stands: for an InitialUEMessage nothing, and
for every other one its answer, unless the task is not yet there or the write failed. -/
def Answered (codec : Codec P D G E) (s : State P D) (m : HandlerId) (message : Bytes) : Prop :=
  match answer codec message with
  | none => s.sentBy m = []
  | some response =>
    (∃ bytes, codec.codecToBytes response = .ok bytes ∧ s.sentBy m = [bytes] ∧
      s.tasks m = .written (.ok ())) ∨
    (s.sentBy m = [] ∧ (s.tasks m = .spawned message ∨ s.tasks m = .responding response ∨
      ∃ err, s.tasks m = .written (.error err)))

/-- What a task has written so far is what its message asks for. The cases are the places where the
task can stand, and by the invariant each of them knows what was written. -/
theorem Kept.answered {s : State P D} (h : Kept codec s) {m : HandlerId} {message : Bytes}
    (hread : s.messages[m]? = some message) : Answered codec s m message := by
  have hstands := h m
  unfold Answered
  rw [hread] at hstands
  generalize s.tasks m = task at hstands ⊢
  generalize s.sentBy m = sent at hstands ⊢
  -- a task that is over has written an answer, or had none to write
  cases hstands with
  | spawned =>
    split
    · rfl
    · exact .inr ⟨rfl, .inl rfl⟩
  | handling h =>
    rw [h.answer]
  | responding h =>
    rw [h]
    exact .inr ⟨rfl, .inr (.inl rfl)⟩
  | silent h => rw [h]
  | failed err =>
    split
    · rfl
    · exact .inr ⟨rfl, .inr (.inr ⟨err, rfl⟩)⟩
  | written h hbytes =>
    rw [h]
    exact .inl ⟨_, hbytes, rfl, rfl⟩
  | panicked h => rw [h]

/-- A task writes once at most, and then the answer to its message. -/
theorem Kept.sentBy_cases {s : State P D} (h : Kept codec s) (m : HandlerId) :
    s.sentBy m = [] ∨ ∃ message response bytes, s.messages[m]? = some message ∧
      answer codec message = some response ∧ codec.codecToBytes response = .ok bytes ∧
      s.sentBy m = [bytes] := by
  have hstands := h m
  generalize s.messages[m]? = read at hstands ⊢
  generalize s.tasks m = task at hstands
  generalize s.sentBy m = sent at hstands ⊢
  cases hstands with
  | idle | spawned | handling | responding | silent | failed | panicked => exact .inl rfl
  | written hanswer hbytes => exact .inr ⟨_, _, _, rfl, hanswer, hbytes, rfl⟩

/-- **What a gNB is answered,** in every order of the tasks. Numbers that no message has are written
for by nobody. -/
theorem answered_of_run {gnb : ConnId} {as : List Act} {s : State P D}
    (run : (system codec gnb).Run as s) :
    (∀ m message, s.messages[m]? = some message → Answered codec s m message) ∧
      ∀ m, s.messages[m]? = none → s.sentBy m = [] := by
  refine ⟨fun m message hread => (kept_of_run run).answered hread, fun m hread => ?_⟩
  have hstands := kept_of_run run m
  rw [hread] at hstands
  generalize s.tasks m = task at hstands
  generalize s.sentBy m = sent at hstands ⊢
  cases hstands
  rfl

/-! ## The handlers

The handlers in the loop are those of `InitialUe`, spawned by the tasks. Their part of a run is a
run of their own system, and what is known there of handlers can be used here. -/

/-- A task has had its message decoded. -/
def Task.isDecoded : Task P D → Bool
  | .idle => false
  | .spawned _ => false
  | _ => true

/-- A handler was spawned for a request: that of its message. -/
def State.Spawns (codec : Codec P D G E) (s : State P D) (m : HandlerId)
    (request : InitialUeMessage) : Prop :=
  ∃ message, s.messages[m]? = some message ∧ Carries codec message request ∧
    (s.tasks m).isDecoded = true

/-- What an action is to the handlers that are there. -/
def Act.moves : Act → Option InitialUe.Act
  | .ue a => some a
  | _ => none

/-- The handlers after some of their own actions, for whom they were spawned, and how they moved. -/
structure Handles (codec : Codec P D G E) (gnb : ConnId) (as : List Act) (bs : List InitialUe.Act)
    (s : State P D) : Prop where
  run : (InitialUe.system gnb).Run bs s.ue
  spawned : ∀ m request, .receive m request ∈ bs ↔ s.Spawns codec m request
  moves : bs.filter isHandlers = as.filterMap Act.moves

/-- A step in which no handler moves or is spawned. -/
theorem Handles.keep {gnb : ConnId} {as : List Act} {a : Act} {bs : List InitialUe.Act}
    {s s' : State P D} (h : Handles codec gnb as bs s) (ha : a.moves = none) (hue : s'.ue = s.ue)
    (hspawns : ∀ m request, s'.Spawns codec m request ↔ s.Spawns codec m request) :
    Handles codec gnb (as ++ [a]) bs s' := by
  refine ⟨?_, fun m request => (h.spawned m request).trans (hspawns m request).symm, ?_⟩
  · rw [hue]
    exact h.run
  · rw [List.filterMap_append, List.filterMap_cons_none ha, List.filterMap_nil, List.append_nil]
    exact h.moves

/-- A task that moves on spawns no handler, if it has done so or has no request. -/
theorem spawns_setTask {s : State P D} {m : HandlerId} {task : Task P D}
    (h : task.isDecoded = (s.tasks m).isDecoded ∨
      ∃ message, s.messages[m]? = some message ∧ ∀ request, ¬ Carries codec message request)
    (m' : HandlerId) (request : InitialUeMessage) :
    (s.setTask m task).Spawns codec m' request ↔ s.Spawns codec m' request := by
  -- the task that moves was read its message before; the others are as they were
  by_cases heq : m' = m
  · subst heq
    unfold State.Spawns
    show (∃ message, s.messages[m']? = some message ∧ Carries codec message request ∧
      (Function.update s.tasks m' task m').isDecoded = true) ↔ _
    rw [Function.update_self]
    rcases h with hdecoded | ⟨message, hread, hcarries⟩
    · rw [hdecoded]
    · have hnot {p : Prop} : ¬ ∃ message, s.messages[m']? = some message ∧
          Carries codec message request ∧ p := by
        rintro ⟨message', hread', hcarries', -⟩
        rw [hread] at hread'
        cases hread'
        exact hcarries request hcarries'
      exact iff_of_false hnot hnot
  · unfold State.Spawns
    show (∃ message, s.messages[m']? = some message ∧ Carries codec message request ∧
      (Function.update s.tasks m task m').isDecoded = true) ↔ _
    rw [Function.update_of_ne heq]

/-- A new message has no handler yet, because its task was idle; and the messages before it keep
theirs. -/
theorem spawns_message {s : State P D} {message : Bytes} (hidle : s.tasks s.messages.length = .idle)
    (m : HandlerId) (request : InitialUeMessage) :
    State.Spawns codec { s with
      messages := s.messages ++ [message]
      tasks := Function.update s.tasks s.messages.length (.spawned message) } m request ↔
      s.Spawns codec m request := by
  unfold State.Spawns
  dsimp only
  -- a number before the new message, the new one, and one after it
  rcases lt_trichotomy m s.messages.length with hlt | rfl | hgt
  · rw [List.getElem?_append_left hlt, Function.update_of_ne (Nat.ne_of_lt hlt)]
  · rw [Function.update_self, hidle]
    refine iff_of_false ?_ ?_
    · rintro ⟨_, -, -, hdecoded⟩
      cases hdecoded
    · rintro ⟨_, -, -, hdecoded⟩
      cases hdecoded
  · rw [Function.update_of_ne (Nat.ne_of_gt hgt),
      List.getElem?_eq_none (by rw [List.length_append]; exact hgt),
      List.getElem?_eq_none (Nat.le_of_lt hgt)]

theorem not_carries_of_answer {message : Bytes} {response : NgapPdu P D}
    (h : answer codec message = some response) (request : InitialUeMessage) :
    ¬ Carries codec message request := by
  intro hcarries
  rw [hcarries.answer] at h
  cases h

/-- The task of an InitialUEMessage spawns the handler of its own number, for its request. This is
the only step after which there is a handler more. -/
theorem spawns_handle {s : State P D} {m : HandlerId} {message : Bytes}
    {request : InitialUeMessage} {ue : InitialUe.State} (hread : s.messages[m]? = some message)
    (hm : s.tasks m = .spawned message) (hcarries : Carries codec message request) (m' : HandlerId)
    (request' : InitialUeMessage) :
    State.Spawns codec { s.setTask m .handling with ue := ue } m' request' ↔
      s.Spawns codec m' request' ∨ InitialUe.Act.receive m' request' = .receive m request := by
  unfold State.Spawns
  show (∃ read, s.messages[m']? = some read ∧ Carries codec read request' ∧
    (Function.update s.tasks m .handling m').isDecoded = true) ↔ _
  by_cases heq : m' = m
  · subst heq
    rw [Function.update_self, hread, hm]
    constructor
    · -- of this task the handler is the one that is spawned here
      rintro ⟨read, hread', hcarries', -⟩
      cases hread'
      unfold Carries at hcarries hcarries'
      rw [hcarries] at hcarries'
      cases hcarries'
      exact .inr rfl
    · rintro (⟨_, -, -, hdecoded⟩ | heq)
      · cases hdecoded
      · cases heq
        exact ⟨message, rfl, hcarries, rfl⟩
  · rw [Function.update_of_ne heq]
    refine (or_iff_left ?_).symm
    rintro ⟨⟩
    exact heq rfl

/-- **Which handlers are spawned.** One for each InitialUEMessage that has been decoded, under the
number of the message; they run as the handlers of a gNB do. By induction on the run, with one step
of the handlers for each step in which they move. -/
theorem handlers_of_run {gnb : ConnId} {as : List Act} {s : State P D}
    (run : (system codec gnb).Run as s) : ∃ bs, Handles codec gnb as bs s := by
  -- the run of the handlers is built along: a step of theirs is one of it, and so is a spawn
  induction run with
  | nil =>
    refine ⟨[], .nil, fun m request => iff_of_false nofun ?_, rfl⟩
    rintro ⟨message, hread, -⟩
    cases hread
  | @snoc as s s' a run _ hstep ih =>
    obtain ⟨bs, h⟩ := ih
    have hkept := kept_of_run run
    cases step_cases hstep with
    | fail | close => exact ⟨bs, h.keep rfl rfl fun _ _ => Iff.rfl⟩
    | @message message hr hne =>
      have hidle : s.tasks s.messages.length = .idle := by
        have hstands := hkept s.messages.length
        rw [List.getElem?_eq_none (Nat.le_refl _)] at hstands
        generalize s.sentBy s.messages.length = sent at hstands
        generalize s.tasks s.messages.length = task at hstands ⊢
        cases hstands
        rfl
      exact ⟨bs, h.keep rfl rfl (spawns_message hidle)⟩
    | @undecodable m message pdu e hm hdec =>
      refine ⟨bs, h.keep rfl rfl (spawns_setTask (.inr ⟨message, (hkept.spawned hm).1, ?_⟩))⟩
      exact not_carries_of_answer (answer_undecodable hdec)
    | @unhandled m message pdu response hm hdec hroute =>
      refine ⟨bs, h.keep rfl rfl (spawns_setTask (.inr ⟨message, (hkept.spawned hm).1, ?_⟩))⟩
      exact not_carries_of_answer (answer_unhandled hdec hroute)
    -- this is the step in which a handler is spawned
    | @handle m message pdu request ue hm hdec hroute hue =>
      have hcarries := carries_of_route hdec hroute
      have hrun : (InitialUe.system gnb).Run (bs ++ [.receive m request]) ue :=
        .snoc h.run trivial hue
      have hmoves : (bs ++ [InitialUe.Act.receive m request]).filter isHandlers =
          (as ++ [Act.decode m]).filterMap Act.moves := by
        rw [List.filter_append, List.filterMap_append, h.moves]
        rfl
      refine ⟨bs ++ [.receive m request], hrun, fun m' request' => ?_, hmoves⟩
      rw [List.mem_append, List.mem_singleton, h.spawned,
        spawns_handle (hkept.spawned hm).1 hm hcarries m' request']
    | @ue a ue ha hue =>
      have hrun : (InitialUe.system gnb).Run (bs ++ [a]) ue := .snoc h.run trivial hue
      have hmoves : (bs ++ [a]).filter isHandlers = (as ++ [Act.ue a]).filterMap Act.moves := by
        rw [List.filter_append, List.filterMap_append, h.moves, List.filter_cons_of_pos ha]
        rfl
      refine ⟨bs ++ [a], hrun, fun m request => ?_, hmoves⟩
      rw [List.mem_append, List.mem_singleton, h.spawned]
      refine or_iff_left ?_
      rintro rfl
      cases ha
    | @handled m res hm hres =>
      rw [handlerResult_toPdu res hres]
      exact ⟨bs, h.keep rfl rfl (spawns_setTask (.inl (by rw [hm]; rfl)))⟩
    | @panic m hm => exact ⟨bs, h.keep rfl rfl (spawns_setTask (.inl (by rw [hm]; rfl)))⟩
    | @write m written response hm =>
      let resp := (encodeAndWriteNgapPdu codec response written).2
      have hmoved (m' : HandlerId) (request : InitialUeMessage) :
          (s.setTask m (.written resp)).Spawns codec m' request ↔ s.Spawns codec m' request :=
        spawns_setTask (.inl (by rw [hm]; rfl)) m' request
      exact ⟨bs, h.keep rfl rfl hmoved⟩

/-- **One UE context for each RAN UE NGAP ID.** Of the messages with one id at most one has its
handler succeed; the UE context of the id is made of that message, and nothing is written for it.
The argument is that of `InitialUe`, carried over by `handlers_of_run`. -/
theorem one_context_of_run {gnb : ConnId} {as : List Act} {s : State P D}
    (run : (system codec gnb).Run as s) :
    (∀ m m' w w', s.ue.handlers m = .succeeded w → s.ue.handlers m' = .succeeded w' →
      w.request.ranUeNgapId = w'.request.ranUeNgapId → m = m') ∧
    ∀ m w, s.ue.handlers m = .succeeded w → s.ue.HoldsOnly m w.request ∧ s.sentBy m = [] ∧
      ∃ message, s.messages[m]? = some message ∧ Carries codec message w.request := by
  obtain ⟨bs, hrun, hspawned, -⟩ := handlers_of_run run
  have hs := InitialUe.settled_of_run hrun
  have hown (m : HandlerId) (w : InitialUe.Work) (hm : s.ue.handlers m = .succeeded w) :
      InitialUe.Fits s.ue.manager s.ue.captured m (.succeeded w) := hm ▸ hs.fits m
  constructor
  · -- two that have succeeded for one id are the same handler
    intro m m' w w' hm hm' hid
    -- both queues are under the id
    have hqueue : w.queue = w'.queue := by
      have hstored := InitialUe.OnOwnQueue.stored (hown m w hm)
      rw [hid, InitialUe.OnOwnQueue.stored (hown m' w' hm')] at hstored
      exact (Option.some.inj hstored).symm
    refine hs.held.unique m m' w.queue ?_ ?_
    · show (s.ue.handlers m).queue = some w.queue
      rw [hm]
      rfl
    · show (s.ue.handlers m').queue = some w.queue
      rw [hm', hqueue]
      rfl
  · intro m w hm
    have hreceived := InitialUe.request_received hrun m w.request (by rw [hm]; rfl)
    obtain ⟨message, hread, hcarries, -⟩ := (hspawned m w.request).mp hreceived
    have hanswered := (kept_of_run run).answered hread
    unfold Answered at hanswered
    rw [hcarries.answer] at hanswered
    exact ⟨hs.holds_only (InitialUe.numbered_of_run hrun) hm, hanswered, message, hread, hcarries⟩

/-! ## A loop with three messages

A codec whose messages have one octet, small enough for runs to be computed. -/

/-- One octet tells the message; every answer is one octet. -/
def octetCodec : Codec Unit Unit Unit Unit where
  fromBytes
    | [0x0F] => .ok (.initiatingMessage (.initialUeMessage (InitialUe.ueMessage 7 0x41)))
    | [0x15] => .ok (.initiatingMessage (.other ()))
    | _ => .error ⟨(), ()⟩
  codecToBytes _ := .ok [0x09]
  convertDiagnosticsToIe _ := ()
  getMessageInfo _ := (none, none, none)

/-- An InitialUEMessage, a message that nothing handles, and one that is not decoded, which is
answered first. -/
def threeMessages : List Act :=
  [.read (.ok [0x0F]), .read (.ok [0x15]), .read (.ok [0xFF]), .decode 1, .decode 2, .decode 0,
    .write 2 true, .write 1 true]

/-- Each message is answered as its kind demands, in another order than they were read in. -/
theorem answered_threeMessages :
    ∃ s, (system octetCodec 0).Run threeMessages s ∧ s.sent = [(2, [0x09]), (1, [0x09])] ∧
      Answered octetCodec s 0 [0x0F] ∧ Answered octetCodec s 1 [0x15] ∧
      Answered octetCodec s 2 [0xFF] := by
  let s := ((system octetCodec 0).exec threeMessages).get (by decide)
  have hrun : (system octetCodec 0).Run threeMessages s := System.run_of_exec (by simp [s])
  have hanswered := (answered_of_run hrun).1
  exact ⟨s, hrun, rfl, hanswered 0 _ rfl, hanswered 1 _ rfl, hanswered 2 _ rfl⟩

/-- Two InitialUEMessages with one RAN UE NGAP ID, whose handlers both look before either adds its UE
context. The second one finds the id taken, and panics. -/
def bothAdd : List Act :=
  [.read (.ok [0x0F]), .read (.ok [0x0F]), .decode 0, .decode 1] ++
    ([.check 0, .check 1, .alloc 0, .alloc 1, .add 0, .manager (.caller (InitialUe.addCall 0)),
      .add 1, .manager (.caller (InitialUe.addCall 1))] : List InitialUe.Act).map .ue

/-- The rest of the first handler and its calls. -/
def firstHandlerSteps : List InitialUe.Act :=
  [.added 0, .schedule 0] ++
    List.replicate 8 (.manager (.caller (InitialUe.withCall 0))) ++
    List.replicate 3 (.manager (.proc 0)) ++
    [.manager (.complete 0 ()), .manager (.dropGuard 0), .manager (.proc 0),
      .manager (.caller (InitialUe.withCall 0)), .returned 0]

/-- Both tasks go on to their ends. -/
def oneUe : List Act :=
  bothAdd ++ .ue (.added 1) :: firstHandlerSteps.map .ue ++ [.returned 0, .returned 1]

/-- The id has the UE context of the first message, and neither message is answered. -/
theorem one_context_oneUe :
    ∃ s w w', (system octetCodec 0).Run oneUe s ∧ s.ue.handlers 0 = .succeeded w ∧
      s.ue.handlers 1 = .aborted w' ∧ w.request.ranUeNgapId = w'.request.ranUeNgapId ∧
      s.ue.HoldsOnly 0 w.request ∧ s.sentBy 0 = [] ∧
      ∀ m v, s.ue.handlers m = .succeeded v → w.request.ranUeNgapId = v.request.ranUeNgapId →
        0 = m := by
  let s := ((system octetCodec 0).exec oneUe).get (by decide)
  have hrun : (system octetCodec 0).Run oneUe s := System.run_of_exec (by simp [s])
  let request := InitialUe.ueMessage 7 0x41
  have hwon : s.ue.handlers 0 = .succeeded ⟨request, .ofRequest 0 request 1, 0⟩ := rfl
  have hlost : s.ue.handlers 1 = .aborted ⟨request, .ofRequest 0 request 2, 1⟩ := rfl
  obtain ⟨hunique, hown⟩ := one_context_of_run hrun
  obtain ⟨hholds, hsent, -⟩ := hown 0 _ hwon
  exact ⟨s, _, _, hrun, hwon, hlost, rfl, hholds, hsent, fun m v hm => hunique 0 m _ v hwon hm⟩

end UnifyAir.Ngap.Loop
