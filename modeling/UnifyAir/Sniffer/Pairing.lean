import Mathlib.Data.List.Induction
import UnifyAir.Sniffer.Capturer

/-!
# UnifyAir — requests and responses of HTTP/1

A request is outstanding until a response of its flow takes it away, or another request of the flow
takes its place. So a response is stored with the latest request of its flow, unless another
response came between them; and no request is stored twice.

* **`outstanding_iff`** — which request is outstanding, after any packets.
* **`onHttp1_response`** — what is to be stored for a response.
* **`merged_le_requests`** — requests that are stored with a response, and requests.
-/

namespace UnifyAir.Sniffer

namespace TcpPacket

variable (packet : TcpPacket)

def message : Http1Message := Http1Message.ofPayload packet.payload

/-- The request of a flow that a packet is. -/
def requestOn (flow : Flow) : Option Http1Request :=
  match packet.message.start with
  | .request method path =>
    if flow = (packet.src, packet.dst) then
      some ⟨packet.message.headers, path, packet.message.body, method⟩
    else none
  | _ => none

/-- A packet is a response for a flow. -/
def respondsOn (flow : Flow) : Bool :=
  match packet.message.start with
  | .response .. => flow = (packet.dst, packet.src)
  | _ => false

end TcpPacket

/-- The requests that are outstanding after some packets. -/
def outstandingAfter (packets : List TcpPacket) : Outstanding :=
  packets.foldl (fun outstanding packet => (onHttp1 outstanding packet).2) fun _ => none

/-- A request of a flow with no other behind it, and no response. -/
def Unanswered (packets : List TcpPacket) (flow : Flow) (req : Http1Request) : Prop :=
  ∃ before packet behind, packets = before ++ packet :: behind ∧
    packet.requestOn flow = some req ∧
    ∀ other ∈ behind, other.requestOn flow = none ∧ other.respondsOn flow = false

/-- What a packet makes of a flow: a response empties it, a request fills it, anything else leaves
it. This is all of `http1_outstanding_requests` that later proofs need. -/
theorem snd_onHttp1 (outstanding : Outstanding) (packet : TcpPacket) (flow : Flow) :
    (onHttp1 outstanding packet).2 flow =
      if packet.respondsOn flow then none
      else (packet.requestOn flow).or (outstanding flow) := by
  unfold onHttp1 TcpPacket.respondsOn TcpPacket.requestOn TcpPacket.message
  dsimp only
  cases (Http1Message.ofPayload packet.payload).start with
  | request method path =>
    dsimp only
    rw [if_neg Bool.false_ne_true, Function.update_apply]
    split <;> rfl
  | response respStatus respReason =>
    dsimp only
    -- a response: to an outstanding request, or to none
    cases hout : outstanding (packet.dst, packet.src) with
    | some req =>
      dsimp only
      rw [Function.update_apply]
      by_cases hflow : flow = (packet.dst, packet.src)
      · rw [if_pos hflow, if_pos (decide_eq_true hflow)]
      · rw [if_neg hflow, if_neg (by simpa using hflow)]
        rfl
    | none =>
      dsimp only
      by_cases hflow : flow = (packet.dst, packet.src)
      · rw [if_pos (decide_eq_true hflow), hflow, hout]
      · rw [if_neg (by simpa using hflow)]
        rfl
  | unclassified => rfl

/-- One packet more. Either it is the request itself, or the request was unanswered before and this
packet has nothing to do with its flow. -/
theorem unanswered_snoc (packets : List TcpPacket) (packet : TcpPacket) (flow : Flow)
    (req : Http1Request) :
    Unanswered (packets ++ [packet]) flow req ↔
      packet.requestOn flow = some req ∨
        packet.requestOn flow = none ∧ packet.respondsOn flow = false ∧
          Unanswered packets flow req := by
  constructor
  · -- is the last packet the request, or one behind it?
    rintro ⟨before, request, behind, heq, hreq, hbehind⟩
    rcases List.eq_nil_or_concat behind with rfl | ⟨behind, last, rfl⟩
    · obtain ⟨-, hlast⟩ := List.append_inj' heq rfl
      cases hlast
      exact .inl hreq
    · rw [List.concat_eq_append, ← List.cons_append, ← List.append_assoc] at heq
      obtain ⟨rfl, hlast⟩ := List.append_inj' heq rfl
      cases hlast
      rw [List.concat_eq_append] at hbehind
      obtain ⟨hnone, hno⟩ := hbehind packet (List.mem_append_right _ (List.mem_singleton_self _))
      exact .inr ⟨hnone, hno, before, request, behind, rfl, hreq,
        fun other hother => hbehind other (List.mem_append_left _ hother)⟩
  · rintro (hreq | ⟨hnone, hno, before, request, behind, rfl, hreq, hbehind⟩)
    · exact ⟨packets, packet, [], rfl, hreq, nofun⟩
    · refine ⟨before, request, behind ++ [packet], ?_, hreq, ?_⟩
      · rw [List.append_assoc, List.cons_append]
      · intro other hother
        rcases List.mem_append.mp hother with hother | hother
        · exact hbehind other hother
        · rw [List.mem_singleton] at hother
          rw [hother]
          exact ⟨hnone, hno⟩

/-- A packet is no response, if it is a request. -/
theorem respondsOn_of_requestOn {packet : TcpPacket} {flow : Flow} {req : Http1Request}
    (h : packet.requestOn flow = some req) : packet.respondsOn flow = false := by
  unfold TcpPacket.requestOn at h
  unfold TcpPacket.respondsOn
  cases hstart : packet.message.start with
  | request method path => rfl
  | response respStatus respReason =>
    rw [hstart] at h
    cases h
  | unclassified => rfl

/-- **Which request is outstanding.** The table has exactly the last request of each flow that
nothing came behind. By induction on the packets, from the last one. -/
theorem outstanding_iff (packets : List TcpPacket) (flow : Flow) (req : Http1Request) :
    outstandingAfter packets flow = some req ↔ Unanswered packets flow req := by
  induction packets using List.reverseRecOn with
  | nil =>
    refine iff_of_false nofun ?_
    rintro ⟨before, packet, behind, heq, -⟩
    exact absurd heq (by simp)
  | append_singleton packets packet ih =>
    rw [unanswered_snoc, ← ih]
    unfold outstandingAfter
    rw [List.foldl_append]
    show (onHttp1 (outstandingAfter packets) packet).2 flow = some req ↔ _
    rw [snd_onHttp1]
    -- a request takes the place, a response empties it
    cases hreq : packet.requestOn flow with
    | some req' =>
      rw [respondsOn_of_requestOn hreq, if_neg Bool.false_ne_true, Option.some_or]
      exact ⟨.inl, fun h => h.resolve_right fun h => nomatch h.1⟩
    | none =>
      cases hres : packet.respondsOn flow with
      | true => exact iff_of_false nofun fun h => h.elim nofun fun h => nomatch h.2.1
      | false =>
        rw [if_neg Bool.false_ne_true, Option.none_or]
        exact ⟨fun h => .inr ⟨rfl, rfl, h⟩, fun h => (h.resolve_left nofun).2.2⟩

/-! ## What is handed to the store

For a response one payload is handed over, with the request in it or without. Whether it is stored
depends on the sides, and is said in `Sniffer.Entries`. -/

/-- A request is stored with its response; the sides are those of the request. -/
structure StoresExchange (p : Payload) (req : Http1Request) (packet : TcpPacket) : Prop where
  sides : p.src = packet.dst ∧ p.dst = packet.src
  request : p.method = some req.method ∧ p.path = some req.path ∧
    p.reqHeaders = some req.headers ∧ p.request = some req.request
  start : ∃ respStatus, p.respStatus = some respStatus ∧
    packet.message.start = .response respStatus p.respReason
  response : p.respHeaders = some packet.message.headers ∧ p.response = some packet.message.body

/-- A response is stored alone. -/
structure StoresResponse (p : Payload) (packet : TcpPacket) : Prop where
  sides : p.src = packet.src ∧ p.dst = packet.dst
  request : p.method = none ∧ p.path = some [] ∧ p.reqHeaders = none ∧ p.request = none
  start : ∃ respStatus, p.respStatus = some respStatus ∧
    packet.message.start = .response respStatus p.respReason
  response : p.respHeaders = some packet.message.headers ∧ p.response = some packet.message.body

/-- What one response makes of what is outstanding. The sides of the payload are those of the
request if there is one, and so the other way round. -/
theorem fst_onHttp1_response (outstanding : Outstanding) {packet : TcpPacket}
    {respStatus : List Char} {respReason : Option (List Char)}
    (h : packet.message.start = .response respStatus respReason) :
    ∃ p, (onHttp1 outstanding packet).1 = some p ∧
      ((∃ req, outstanding (packet.dst, packet.src) = some req ∧ StoresExchange p req packet) ∨
        outstanding (packet.dst, packet.src) = none ∧ StoresResponse p packet) := by
  unfold TcpPacket.message at h
  unfold onHttp1
  dsimp only
  rw [h]
  dsimp only
  cases hout : outstanding (packet.dst, packet.src) with
  | some req =>
    exact ⟨_, rfl, .inl ⟨req, rfl, ⟨rfl, rfl⟩, ⟨rfl, rfl, rfl, rfl⟩, ⟨respStatus, rfl, h⟩, rfl, rfl⟩⟩
  | none => exact ⟨_, rfl, .inr ⟨rfl, ⟨rfl, rfl⟩, ⟨rfl, rfl, rfl, rfl⟩, ⟨respStatus, rfl, h⟩, rfl, rfl⟩⟩

/-- What is to be stored for a response: the latest request of its flow with it, if no response came
between them; else the response alone. -/
theorem onHttp1_response (packets : List TcpPacket) {packet : TcpPacket} {respStatus : List Char}
    {respReason : Option (List Char)}
    (h : packet.message.start = .response respStatus respReason) :
    ∃ p, (onHttp1 (outstandingAfter packets) packet).1 = some p ∧
      ((∃ req, Unanswered packets (packet.dst, packet.src) req ∧ StoresExchange p req packet) ∨
        (∀ req, ¬ Unanswered packets (packet.dst, packet.src) req) ∧ StoresResponse p packet) := by
  obtain ⟨p, hp, hstored⟩ := fst_onHttp1_response (outstandingAfter packets) h
  refine ⟨p, hp, hstored.imp ?_ ?_⟩
  · rintro ⟨req, hreq, hexchange⟩
    exact ⟨req, (outstanding_iff ..).mp hreq, hexchange⟩
  · rintro ⟨hnone, hresponse⟩
    refine ⟨fun req hreq => ?_, hresponse⟩
    rw [(outstanding_iff ..).mpr hreq] at hnone
    cases hnone

/-- The AMF asks the NRF. -/
def getPacket : TcpPacket where
  src := ("10.0.0.2".toList, 40000)
  dst := ("10.0.0.5".toList, 8000)
  payload := "GET /a HTTP/1.1\r\n\r\n".toList.flatMap String.utf8EncodeChar

/-- The NRF answers. -/
def okPacket : TcpPacket where
  src := ("10.0.0.5".toList, 8000)
  dst := ("10.0.0.2".toList, 40000)
  payload := "HTTP/1.1 200 OK\r\n\r\n".toList.flatMap String.utf8EncodeChar

/-- What is stored for each of some packets. -/
def storedFor (outstanding : Outstanding) : List TcpPacket → List (TcpPacket × Option Payload)
  | [] => []
  | packet :: packets =>
    (packet, (onHttp1 outstanding packet).1) :: storedFor (onHttp1 outstanding packet).2 packets

/-- A response for a flow, with a request. -/
def answersOn (flow : Flow) (e : TcpPacket × Option Payload) : Bool :=
  e.1.respondsOn flow && e.2.any (·.request.isSome)

/-- A response is handed over with a request exactly if one is outstanding. The request's body is in
the payload then, even if it is empty, and this is what is counted. -/
theorem answersOn_onHttp1 (outstanding : Outstanding) {packet : TcpPacket} {flow : Flow}
    (h : packet.respondsOn flow = true) :
    answersOn flow (packet, (onHttp1 outstanding packet).1) = (outstanding flow).isSome := by
  have hresponds := h
  unfold TcpPacket.respondsOn at h
  cases hstart : packet.message.start with
  | request method path =>
    rw [hstart] at h
    cases h
  | response respStatus respReason =>
    rw [hstart] at h
    obtain rfl := of_decide_eq_true h
    obtain ⟨p, hp, hstored⟩ := fst_onHttp1_response outstanding hstart
    unfold answersOn
    rw [hresponds, hp]
    rcases hstored with ⟨req, hreq, hexchange⟩ | ⟨hnone, hresponse⟩
    · rw [hreq, Option.any_some, hexchange.request.2.2.2]
      rfl
    · rw [hnone, Option.any_some, hresponse.request.2.2.2]
      rfl
  | unclassified =>
    rw [hstart] at h
    cases h

/-- The account of a flow, from any table: each request that was handed over with a response, or is
still outstanding, has come as a packet or was there in the beginning. -/
theorem answersOn_le (outstanding : Outstanding) (flow : Flow) (packets : List TcpPacket) :
    (storedFor outstanding packets).countP (answersOn flow) +
        (packets.foldl (fun o packet => (onHttp1 o packet).2) outstanding flow).isSome.toNat ≤
      packets.countP (fun packet => (packet.requestOn flow).isSome) +
        (outstanding flow).isSome.toNat := by
  induction packets generalizing outstanding with
  | nil => exact Nat.le_refl _
  | cons packet packets ih =>
    have hrest := ih (onHttp1 outstanding packet).2
    rw [snd_onHttp1] at hrest
    show List.countP _ ((packet, (onHttp1 outstanding packet).1) ::
      storedFor (onHttp1 outstanding packet).2 packets) + _ ≤ _
    rw [List.countP_cons, List.countP_cons, List.foldl_cons]
    -- a response may take a request away, a request may take the place of another
    cases hres : packet.respondsOn flow with
    | true =>
      rw [answersOn_onHttp1 outstanding hres]
      rw [hres, if_pos rfl] at hrest
      cases (outstanding flow).isSome <;> simp only [Option.isSome_none, Bool.toNat_false,
        Bool.toNat_true, Bool.false_eq_true, if_false, if_true] at hrest ⊢ <;> omega
    | false =>
      have hanswers : answersOn flow (packet, (onHttp1 outstanding packet).1) = false := by
        unfold answersOn
        rw [hres, Bool.false_and]
      rw [hanswers, if_neg Bool.false_ne_true]
      rw [hres, if_neg Bool.false_ne_true] at hrest
      cases hreq : packet.requestOn flow with
      | some req =>
        rw [hreq, Option.some_or] at hrest
        simp only [Option.isSome_some, Bool.toNat_true, if_true] at hrest ⊢
        omega
      | none =>
        rw [hreq, Option.none_or] at hrest
        simp only [Option.isSome_none, Bool.false_eq_true, if_false] at hrest ⊢
        omega

/-- **No request is stored with two responses.** Of the requests of a flow, those that a response
was stored with and the one that is outstanding are different ones. -/
theorem merged_le_requests (flow : Flow) (packets : List TcpPacket) :
    (storedFor (fun _ => none) packets).countP (answersOn flow) +
        (outstandingAfter packets flow).isSome.toNat ≤
      packets.countP fun packet => (packet.requestOn flow).isSome :=
  answersOn_le (fun _ => none) flow packets

end UnifyAir.Sniffer
