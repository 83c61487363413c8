import UnifyAir.Sniffer.Pairing

/-!
# UnifyAir — what is stored for a packet

An entry names its sides. If one of them is not known, an exception is raised in place of the entry.
All that is stored for a TCP packet has the sides of the packet.

* **`sorted_processAll`** — every result has the sides of its packet.
* **`storeResults_eq`** — the results of a packet are stored all, or none of them.
* **`stored_for_response`** — what is stored for a response of HTTP/1.
* **`processPacket_eq`** — what is processed of a packet.
-/

namespace UnifyAir.Sniffer

variable {D : Type}

/-! ## Sides

A connection is kept under the tuple of its packets. So what comes out of it has the sides of the
packet that completes it, maybe in the other order. -/

/-- The sides of a connection are those of its packets. -/
def Connection.Under (key : ConnTuple) (c : Connection D) : Prop :=
  TcpPacket.canonicalConnTuple ⟨c.clientAddr, c.serverAddr, []⟩ = key

/-- So are the sides of a result. -/
def StreamDict.Under (key : ConnTuple) (dict : StreamDict) : Prop :=
  TcpPacket.canonicalConnTuple ⟨(dict.srcIp, dict.srcPort), (dict.dstIp, dict.dstPort), []⟩ = key

/-- What arrives changes no address, and results have the addresses of the connection. -/
theorem under_arrive (hpack : Hpack D) (hyperframe : Hyperframe) {key : ConnTuple}
    {c : Connection D} (h : c.Under key) (fromClient : Bool) (payload : Bytes) :
    (c.arrive hpack hyperframe fromClient payload).2.Under key ∧
      ∀ dict ∈ (c.arrive hpack hyperframe fromClient payload).1, dict.Under key := by
  refine ⟨h, fun dict hdict => ?_⟩
  obtain ⟨k, -, hk⟩ := List.mem_filterMap.mp hdict
  rw [Connection.completedAt_eq] at hk
  split at hk
  · cases hk
    exact h
  · cases hk

variable (hpack : Hpack D) (hyperframe : Hyperframe) (decoder : D)

/-- A connection that is made for a packet has its sides; one that was there has them by assumption.
In both cases the results have the sides of the connection. -/
theorem under_processOwn {c : Option (Connection D)} (packet : TcpPacket)
    (h : ∀ connection ∈ c, connection.Under packet.canonicalConnTuple) :
    (∀ connection ∈ (processOwn hpack hyperframe decoder c packet).2,
        connection.Under packet.canonicalConnTuple) ∧
      ∀ dict ∈ (processOwn hpack hyperframe decoder c packet).1,
        dict.Under packet.canonicalConnTuple := by
  unfold processOwn
  split
  · exact ⟨h, nofun⟩
  · cases c with
    | none =>
      cases find http2Preface packet.payload with
      | none => exact ⟨nofun, nofun⟩
      | some prefaceOffset =>
        have hnew : (Connection.new decoder packet.src packet.dst).Under packet.canonicalConnTuple :=
          rfl
        obtain ⟨hc, hdicts⟩ := under_arrive hpack hyperframe hnew true
          (packet.payload.drop (prefaceOffset + http2Preface.length))
        refine ⟨fun connection hconnection => ?_, hdicts⟩
        cases hconnection
        exact hc
    | some c =>
      obtain ⟨hc, hdicts⟩ := under_arrive hpack hyperframe (h c rfl) (packet.src = c.clientAddr)
        packet.payload
      refine ⟨fun connection hconnection => ?_, hdicts⟩
      cases hconnection
      exact hc

/-- Every connection of a decoder is under its key. -/
def HTTP2Decoder.Sorted (d : HTTP2Decoder D) : Prop :=
  ∀ key, ∀ connection ∈ d.connections key, connection.Under key

/-- A packet is handled by the connection under its tuple. So the connections stay under their keys,
and its results are under its tuple. -/
theorem sorted_processTcpPacket {d : HTTP2Decoder D} (h : d.Sorted) (packet : TcpPacket) :
    (d.processTcpPacket hpack hyperframe decoder packet).2.Sorted ∧
      ∀ dict ∈ (d.processTcpPacket hpack hyperframe decoder packet).1,
        dict.Under packet.canonicalConnTuple := by
  rw [processTcpPacket_eq]
  obtain ⟨hc, hdicts⟩ := under_processOwn hpack hyperframe decoder packet
    (h packet.canonicalConnTuple)
  refine ⟨fun key connection hconnection => ?_, hdicts⟩
  change connection ∈ Function.update d.connections packet.canonicalConnTuple
    (processOwn hpack hyperframe decoder (d.connections packet.canonicalConnTuple) packet).2 key
    at hconnection
  rw [Function.update_apply] at hconnection
  split at hconnection
  · next hkey =>
    rw [hkey]
    exact hc connection hconnection
  · exact h key connection hconnection

/-- **Every result has the sides of its packet.** The invariant holds of every decoder that a
capture leads to. -/
theorem sorted_processAll (packets : List TcpPacket) :
    ((HTTP2Decoder.new D).processAll hpack hyperframe decoder packets).Sorted := by
  suffices hsorted : ∀ d : HTTP2Decoder D, d.Sorted →
      (d.processAll hpack hyperframe decoder packets).Sorted from hsorted _ fun _ => nofun
  intro d h
  induction packets generalizing d with
  | nil => exact h
  | cons packet packets ih => exact ih _ (sorted_processTcpPacket hpack hyperframe decoder h packet).1

/-! ## Known addresses

`store_reconstructed_payload` in two words: an entry is appended if both sides are known, and an
exception is raised if not. -/

/-- Both sides are known. -/
def Payload.known (p : Payload) : Bool := isTarget p.src.1 && isTarget p.dst.1

/-- The entry of a payload, if its sides are known. -/
def Payload.entry (p : Payload) : Option Entry := (Entry.ofPayload p).toOption

/-- There are two outcomes, and they are told apart by whether the sides are known. -/
theorem ofPayload_eq (p : Payload) :
    (∃ entry, Entry.ofPayload p = .ok entry ∧ p.entry = some entry ∧ p.known = true) ∨
      ∃ err, Entry.ofPayload p = .error err ∧ p.entry = none ∧ p.known = false := by
  unfold Payload.entry Payload.known Entry.ofPayload aliasOf isTarget
  -- the first name is looked for first, but either failure is an exception
  cases IP_TO_ALIAS.lookup p.src.1 with
  | none => exact .inr ⟨_, rfl, rfl, rfl⟩
  | some srcAlias =>
    cases IP_TO_ALIAS.lookup p.dst.1 with
    | none => exact .inr ⟨_, rfl, rfl, rfl⟩
    | some dstAlias => exact .inl ⟨_, rfl, rfl, rfl⟩

theorem entry_of_not_known {p : Payload} (h : p.known = false) : p.entry = none := by
  rcases ofPayload_eq p with ⟨entry, -, -, hknown⟩ | ⟨err, -, hentry, -⟩
  · rw [h] at hknown
    cases hknown
  · exact hentry

namespace Capture

/-- The entry of a payload is appended, if there is one; without it an exception is raised. -/
theorem storeReconstructedPayload_eq (c : Capture D) (p : Payload) :
    (c.storeReconstructedPayload p).2 =
        { c with reconstructedPayloads := c.reconstructedPayloads ++ p.entry.toList } ∧
      ((c.storeReconstructedPayload p).1.isOk = p.known) := by
  unfold storeReconstructedPayload
  rcases ofPayload_eq p with ⟨entry, hof, hentry, hknown⟩ | ⟨err, hof, hentry, hknown⟩
  · rw [hof, hentry, hknown]
    exact ⟨rfl, rfl⟩
  · rw [hof, hentry, hknown]
    refine ⟨?_, rfl⟩
    rw [Option.toList_none, List.append_nil]

/-- **The results of a packet** are stored all, or none of them. They have one pair of sides, so
either every name is found, or the first result raises and the loop ends. -/
theorem storeResults_eq (c : Capture D) {results : List StreamDict} {known : Bool}
    (h : ∀ result ∈ results, (payloadOfStream result).known = known) :
    (c.storeResults results).2 =
        { c with
          reconstructedPayloads := c.reconstructedPayloads ++
            (results.map payloadOfStream).filterMap Payload.entry } ∧
      (c.storeResults results).1.isOk = (results.isEmpty || known) := by
  -- result by result; the state the first one leaves is where the others begin
  induction results generalizing c with
  | nil => exact ⟨by rw [List.map_nil, List.filterMap_nil, List.append_nil]; rfl, rfl⟩
  | cons result results ih =>
    have hresult := h result (List.mem_cons_self ..)
    have hrest := fun result hmem => h result (List.mem_cons_of_mem _ hmem)
    obtain ⟨hstate, hok⟩ := c.storeReconstructedPayload_eq (payloadOfStream result)
    rw [hresult] at hok
    rw [List.map_cons, List.filterMap_cons]
    unfold storeResults
    cases hstore : c.storeReconstructedPayload (payloadOfStream result) with
    | mk res c' =>
      rw [hstore] at hstate hok
      have hc' : c' = _ := hstate
      subst hc'
      cases res with
      | ok =>
        obtain rfl : true = known := hok
        obtain ⟨hstate', hok'⟩ := ih { c with
          reconstructedPayloads :=
            c.reconstructedPayloads ++ (payloadOfStream result).entry.toList } hrest
        refine ⟨hstate'.trans ?_, hok'.trans (Bool.or_true _)⟩
        cases (payloadOfStream result).entry with
        | none => simp
        | some entry => simp
      | error err =>
        obtain rfl : false = known := hok
        -- the other results have the same sides
        have hrestNone : (results.map payloadOfStream).filterMap Payload.entry = [] := by
          rw [List.filterMap_eq_nil_iff]
          intro p hp
          obtain ⟨result, hmem, rfl⟩ := List.mem_map.mp hp
          exact entry_of_not_known (hrest result hmem)
        refine ⟨?_, rfl⟩
        show { c with reconstructedPayloads := _ } = _
        rw [entry_of_not_known hresult, hrestNone]
        rfl

/-- Requests are taken away and put there whether or not the payload can be stored. For the
exception comes afterwards, and what has been done before it stays. -/
theorem processTcpPacketHttp1_eq (c : Capture D) (packet : TcpPacket) :
    c.processTcpPacketHttp1 packet =
      { c with
        http1OutstandingRequests := (onHttp1 c.http1OutstandingRequests packet).2
        reconstructedPayloads := c.reconstructedPayloads ++
          (onHttp1 c.http1OutstandingRequests packet).1.toList.filterMap Payload.entry } := by
  unfold processTcpPacketHttp1
  dsimp only
  cases (onHttp1 c.http1OutstandingRequests packet).1 with
  | none =>
    dsimp only
    rw [Option.toList_none, List.filterMap_nil, List.append_nil]
  | some p =>
    dsimp only
    rw [(storeReconstructedPayload_eq _ p).1]
    cases hentry : p.entry <;> simp [hentry]

end Capture

/-- Both sides of a packet are known. -/
def TcpPacket.known (packet : TcpPacket) : Bool := isTarget packet.src.1 && isTarget packet.dst.1

/-! ## Responses of HTTP/1

A response takes the outstanding request of its flow away before anything is stored. If one of the
sides is not known, the exception that is raised then is caught, and neither of them is stored. -/

/-- The capture after some packets of HTTP/1. -/
def Capture.afterHttp1 (D : Type) (packets : List TcpPacket) : Capture D :=
  packets.foldl Capture.processTcpPacketHttp1 (.new D)

/-- Storing does not touch the requests, so they are those of `Sniffer.Pairing`. -/
theorem outstanding_afterHttp1 (packets : List TcpPacket) :
    (Capture.afterHttp1 D packets).http1OutstandingRequests = outstandingAfter packets := by
  induction packets using List.reverseRecOn with
  | nil => rfl
  | append_singleton packets packet ih =>
    unfold Capture.afterHttp1 outstandingAfter at ih ⊢
    rw [List.foldl_append, List.foldl_append, List.foldl_cons, List.foldl_nil, List.foldl_cons,
      List.foldl_nil, Capture.processTcpPacketHttp1_eq, ih]

/-- An entry has the names of its sides, as the table has them, and beside them all that was handed
over. -/
theorem alias_of_entry {p : Payload} {entry : Entry} (h : p.entry = some entry) :
    entry.toPayload = p ∧ IP_TO_ALIAS.lookup p.src.1 = some entry.srcAlias ∧
      IP_TO_ALIAS.lookup p.dst.1 = some entry.dstAlias := by
  unfold Payload.entry Entry.ofPayload aliasOf at h
  cases hsrc : IP_TO_ALIAS.lookup p.src.1 with
  | none =>
    rw [hsrc] at h
    cases h
  | some srcAlias =>
    cases hdst : IP_TO_ALIAS.lookup p.dst.1 with
    | none =>
      rw [hsrc, hdst] at h
      cases h
    | some dstAlias =>
      rw [hsrc, hdst] at h
      cases h
      exact ⟨rfl, rfl, rfl⟩

/-- The entry that a response is stored in: with the names of its sides, and with the latest request
of its flow if no response came between them. -/
structure Entry.IsFor (entry : Entry) (packets : List TcpPacket) (packet : TcpPacket) : Prop where
  aliases : IP_TO_ALIAS.lookup entry.src.1 = some entry.srcAlias ∧
    IP_TO_ALIAS.lookup entry.dst.1 = some entry.dstAlias
  stores : (∃ req, Unanswered packets (packet.dst, packet.src) req ∧
      StoresExchange entry.toPayload req packet) ∨
    (∀ req, ¬ Unanswered packets (packet.dst, packet.src) req) ∧
      StoresResponse entry.toPayload packet

/-- **What is stored for a response.** One entry if both sides are known, and nothing otherwise; and
no request is outstanding for the flow any more, stored or not. -/
theorem stored_for_response (packets : List TcpPacket) {packet : TcpPacket}
    {respStatus : List Char} {respReason : Option (List Char)}
    (h : packet.message.start = .response respStatus respReason) :
    (packet.known = true → ∃ entry : Entry, entry.IsFor packets packet ∧
      (Capture.afterHttp1 D (packets ++ [packet])).reconstructedPayloads =
        (Capture.afterHttp1 D packets).reconstructedPayloads ++ [entry]) ∧
    (packet.known = false →
      (Capture.afterHttp1 D (packets ++ [packet])).reconstructedPayloads =
        (Capture.afterHttp1 D packets).reconstructedPayloads) ∧
    (Capture.afterHttp1 D (packets ++ [packet])).http1OutstandingRequests
      (packet.dst, packet.src) = none := by
  obtain ⟨p, hp, hstores⟩ := onHttp1_response packets h
  have hknown : p.known = packet.known := by
    unfold Payload.known TcpPacket.known
    rcases hstores with ⟨_, -, hexchange⟩ | ⟨-, hresponse⟩
    · rw [hexchange.sides.1, hexchange.sides.2, Bool.and_comm]
    · rw [hresponse.sides.1, hresponse.sides.2]
  have hstored : (Capture.afterHttp1 D (packets ++ [packet])).reconstructedPayloads =
      (Capture.afterHttp1 D packets).reconstructedPayloads ++ p.entry.toList := by
    have hafter : Capture.afterHttp1 D (packets ++ [packet]) =
        (Capture.afterHttp1 D packets).processTcpPacketHttp1 packet := List.foldl_concat ..
    rw [hafter, Capture.processTcpPacketHttp1_eq, outstanding_afterHttp1, hp]
    cases hentry : p.entry <;> simp [hentry]
  -- known sides, unknown ones, and the request in either case
  refine ⟨fun hpacket => ?_, fun hpacket => ?_, ?_⟩
  · rcases ofPayload_eq p with ⟨entry, -, hentry, -⟩ | ⟨err, -, -, hunknown⟩
    · obtain ⟨rfl, haliases⟩ := alias_of_entry hentry
      rw [hentry] at hstored
      exact ⟨entry, ⟨haliases, hstores⟩, hstored⟩
    · rw [hknown, hpacket] at hunknown
      cases hunknown
  · rw [hstored, entry_of_not_known (hknown.trans hpacket), Option.toList_none, List.append_nil]
  · rw [outstanding_afterHttp1]
    unfold outstandingAfter
    rw [List.foldl_concat, snd_onHttp1, if_pos]
    unfold TcpPacket.respondsOn
    rw [h]
    exact decide_eq_true rfl

/-- The NRF answers somebody else. -/
def strayPacket : TcpPacket := { okPacket with dst := ("10.0.9.9".toList, 40000) }

/-- The answer of the NRF is stored with the request it is for. The same answer to an address that
nobody knows is not stored at all. -/
theorem stored_for_response_ok :
    (∃ entry : Entry, entry.IsFor [getPacket] okPacket ∧
      (Capture.afterHttp1 Unit ([getPacket] ++ [okPacket])).reconstructedPayloads =
        (Capture.afterHttp1 Unit [getPacket]).reconstructedPayloads ++ [entry]) ∧
    (Capture.afterHttp1 Unit ([getPacket] ++ [strayPacket])).reconstructedPayloads =
      (Capture.afterHttp1 Unit [getPacket]).reconstructedPayloads := by
  have hok : okPacket.message.start = .response "200".toList (some "OK".toList) := by decide
  have hstray : strayPacket.message.start = .response "200".toList (some "OK".toList) := by decide
  exact ⟨(stored_for_response [getPacket] hok).1 (by decide),
    (stored_for_response [getPacket] hstray).2.1 (by decide)⟩

/-- A result has its packet's sides, so they are known together. -/
theorem known_of_under {dict : StreamDict} {packet : TcpPacket}
    (h : dict.Under packet.canonicalConnTuple) : (payloadOfStream dict).known = packet.known := by
  unfold Payload.known TcpPacket.known payloadOfStream
  rcases (canonicalConnTuple_eq_iff _ _).mp h with ⟨hsrc, hdst⟩ | ⟨hsrc, hdst⟩
  · rw [← hsrc, ← hdst]
  · rw [← hsrc, ← hdst, Bool.and_comm]

/-- What a packet of HTTP/2 stores. Its results have one pair of sides, so that no exception can
come after the first of them. -/
theorem Capture.processTcpPacketHttp2_eq {c : Capture D} (h : c.http2Decoder.Sorted)
    (packet : TcpPacket) :
    let results := (c.http2Decoder.processTcpPacket hpack hyperframe decoder packet).1
    (c.processTcpPacketHttp2 hpack hyperframe decoder packet).2 =
        { c with
          http2Decoder := (c.http2Decoder.processTcpPacket hpack hyperframe decoder packet).2
          reconstructedPayloads := c.reconstructedPayloads ++
            (results.map payloadOfStream).filterMap Payload.entry } ∧
      (c.processTcpPacketHttp2 hpack hyperframe decoder packet).1.isOk =
        (results.isEmpty || packet.known) := by
  have hsorted := sorted_processTcpPacket hpack hyperframe decoder h packet
  exact storeResults_eq _ fun result hresult => known_of_under (hsorted.2 result hresult)

/-! ## What a packet is

`process_packet` decides by the layers and the addresses. What comes of it is one of three: a
payload of SCTP, a packet of TCP, or nothing. -/

namespace Packet

variable (packet : Packet)

/-- The sides, if one of them is a target and none is ignored. -/
def sides : Option (List Char × List Char) :=
  packet.ip.filter fun ip =>
    (isTarget ip.1 || isTarget ip.2) && !(isIgnored ip.1 || isIgnored ip.2)

/-- What is to be stored of SCTP. -/
def sctpPayload : Option Payload :=
  packet.sides.bind fun ip => packet.sctp.map fun sctp =>
    { protocol := .sctp
      src := (ip.1, sctp.sport)
      dst := (ip.2, sctp.dport)
      payload := some sctp.payload }

/-- What is to be processed of TCP. -/
def tcpPacket : Option TcpPacket :=
  packet.sides.bind fun ip => match packet.sctp with
    | some _ => none
    | none => packet.tcp.map fun tcp =>
      { src := (ip.1, tcp.sport), dst := (ip.2, tcp.dport), payload := tcp.payload }

/-- SCTP is looked for first, and nothing else is done then. -/
theorem tcpPacket_of_sctpPayload {p : Payload} (h : packet.sctpPayload = some p) :
    packet.tcpPacket = none := by
  unfold sctpPayload at h
  unfold tcpPacket
  cases hsides : packet.sides with
  | none => rfl
  | some ip =>
    rw [hsides, Option.bind_some] at h
    obtain ⟨sctp, hsctp, -⟩ := Option.map_eq_some_iff.mp h
    rw [Option.bind_some, hsctp]

end Packet

/-- **What is processed of a packet.** The filters are in `sides`, so there is one case for each of
the three. -/
theorem processPacket_eq (c : Capture D) (packet : Packet) :
    c.processPacket hpack hyperframe decoder packet =
      match packet.sctpPayload, packet.tcpPacket with
      | some p, _ => c.storeReconstructedPayload p
      | none, some tcp => c.processTcp hpack hyperframe decoder tcp
      | none, none => (.ok (), c) := by
  unfold Capture.processPacket Packet.sctpPayload Packet.tcpPacket Packet.sides
  cases packet.ip with
  | none => rfl
  | some ip =>
    obtain ⟨srcIp, dstIp⟩ := ip
    dsimp only
    rw [Option.filter_some]
    -- neither side is a target; one is ignored; or the packet is looked at
    by_cases htarget : ¬ isTarget srcIp ∧ ¬ isTarget dstIp
    · rw [if_pos htarget, if_neg (by simp [htarget])]
      rfl
    · by_cases hignored : isIgnored srcIp ∨ isIgnored dstIp
      · rw [if_neg htarget, if_pos hignored,
          if_neg (by simpa using fun _ h => hignored.resolve_left h)]
        rfl
      · have hsides : ((isTarget srcIp || isTarget dstIp) &&
            !(isIgnored srcIp || isIgnored dstIp)) = true := by
          simp only [Bool.and_eq_true, Bool.or_eq_true, Bool.not_eq_true', Bool.or_eq_false_iff]
          exact ⟨by_contra fun h => htarget (not_or.mp h), by simpa using hignored⟩
        rw [if_neg htarget, if_neg hignored, if_pos hsides]
        cases packet.sctp with
        | some sctp => rfl
        | none => cases packet.tcp <;> rfl

end UnifyAir.Sniffer
