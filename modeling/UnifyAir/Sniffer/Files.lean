import UnifyAir.Sniffer.Entries

/-!
# UnifyAir — what is stored of a capture

The packets of a file are processed up to the first that makes an exception: one with a side that is
not known, and with something to store for it. What is stored of the packets that are processed is
what HTTP/1 and HTTP/2 make of theirs, each from its own packets alone; of that, all whose sides
are known, in order, and nothing else.

* **`genuine_processPacket`**, **`genuine_processFiles`** — the entries, after any packets and files.
* **`raises_iff`** — which packets end the processing of a file.
* **`processPackets_ends`** — how far a file is processed.
* **`processed_of_known`** — nothing is missing, where all sides are known.
-/

namespace UnifyAir.Sniffer

variable {D : Type}

/-! ## Who a packet is for

TCP packets go to one of two parsers. The two tests of `process_packet` make them apart: what looks
like neither goes to HTTP/2 first. -/

/-- A packet that is given to the decoder of HTTP/2. -/
def TcpPacket.isHttp2 (packet : TcpPacket) : Bool :=
  looksLikeHttp2 packet.payload || !looksLikeHttp1 packet.payload

/-- A packet that is given to HTTP/1 at once. -/
def TcpPacket.isHttp1 (packet : TcpPacket) : Bool :=
  !looksLikeHttp2 packet.payload && looksLikeHttp1 packet.payload

/-- Each TCP packet is for exactly one of the two. -/
theorem TcpPacket.isHttp1_eq_not (packet : TcpPacket) : packet.isHttp1 = !packet.isHttp2 := by
  unfold TcpPacket.isHttp1 TcpPacket.isHttp2
  rw [Bool.not_or, Bool.not_not]

/-- The TCP packets among some packets. -/
def tcpPackets (packets : List Packet) : List TcpPacket := packets.filterMap Packet.tcpPacket

def http1Packets (packets : List Packet) : List TcpPacket :=
  (tcpPackets packets).filter TcpPacket.isHttp1

def http2Packets (packets : List Packet) : List TcpPacket :=
  (tcpPackets packets).filter TcpPacket.isHttp2

/-- A packet has one TCP packet in it, or none. -/
theorem tcpPackets_snoc (packets : List Packet) (packet : Packet) :
    tcpPackets (packets ++ [packet]) = tcpPackets packets ++ packet.tcpPacket.toList := by
  unfold tcpPackets
  rw [List.filterMap_append]
  rw [List.filterMap_cons]
  cases packet.tcpPacket <;> rfl

/-! ## Sides that are known

HTTP/1 is also tried for what HTTP/2 has failed on, and that happens only to packets with a side
that is not known. Such a packet does touch the outstanding requests,
but only those of its own flow, which nothing is ever stored for. -/

def Flow.known (flow : Flow) : Bool := isTarget flow.1.1 && isTarget flow.2.1

/-- A packet whose sides are not known changes nothing for those that are. It is of another flow, in
both directions. -/
theorem snd_onHttp1_of_not_known (outstanding : Outstanding) {packet : TcpPacket} {flow : Flow}
    (hpacket : packet.known = false) (hflow : flow.known = true) :
    (onHttp1 outstanding packet).2 flow = outstanding flow := by
  have hne : flow ≠ (packet.src, packet.dst) := by
    rintro rfl
    exact absurd (hpacket.symm.trans hflow) Bool.false_ne_true
  have hne' : flow ≠ (packet.dst, packet.src) := by
    rintro rfl
    have hswap : packet.known = Flow.known (packet.dst, packet.src) := Bool.and_comm _ _
    exact absurd (hpacket.symm.trans (hswap.trans hflow)) Bool.false_ne_true
  rw [snd_onHttp1]
  have hresponds : packet.respondsOn flow = false := by
    unfold TcpPacket.respondsOn
    split
    · exact decide_eq_false hne'
    · rfl
  have hrequest : packet.requestOn flow = none := by
    unfold TcpPacket.requestOn
    split
    · exact if_neg hne
    · rfl
  rw [hresponds, if_neg Bool.false_ne_true, hrequest, Option.none_or]

/-- What is stored for a packet of HTTP/1 has its sides, whichever branch it comes from. With a
request they are in the other order, which does not matter for being known. -/
theorem fst_onHttp1_known (outstanding : Outstanding) (packet : TcpPacket) :
    ∀ p ∈ (onHttp1 outstanding packet).1, p.protocol = .http1 ∧ p.known = packet.known := by
  unfold onHttp1
  dsimp only
  intro p hp
  cases hstart : (Http1Message.ofPayload packet.payload).start with
  | request method path =>
    rw [hstart] at hp
    cases hp
  | response respStatus respReason =>
    rw [hstart] at hp
    dsimp only at hp
    cases hout : outstanding (packet.dst, packet.src) with
    | some req =>
      rw [hout] at hp
      cases hp
      exact ⟨rfl, Bool.and_comm _ _⟩
    | none =>
      rw [hout] at hp
      cases hp
      exact ⟨rfl, rfl⟩
  | unclassified =>
    rw [hstart] at hp
    cases hp
    exact ⟨rfl, rfl⟩

/-- It depends on what is outstanding for its sides, and on no other flow. -/
theorem fst_onHttp1_congr {outstanding outstanding' : Outstanding} {packet : TcpPacket}
    (h : outstanding (packet.dst, packet.src) = outstanding' (packet.dst, packet.src)) :
    (onHttp1 outstanding packet).1 = (onHttp1 outstanding' packet).1 := by
  unfold onHttp1
  dsimp only
  cases (Http1Message.ofPayload packet.payload).start with
  | request method path => rfl
  | response respStatus respReason =>
    dsimp only
    rw [h]
    cases outstanding' (packet.dst, packet.src) <;> rfl
  | unclassified => rfl

/-- The last packet is handled in the state that the others leave. -/
theorem storedFor_snoc (outstanding : Outstanding) (packets : List TcpPacket)
    (packet : TcpPacket) :
    storedFor outstanding (packets ++ [packet]) =
      storedFor outstanding packets ++
        [(packet, (onHttp1 (packets.foldl (fun o p => (onHttp1 o p).2) outstanding) packet).1)] := by
  induction packets generalizing outstanding with
  | nil => rfl
  | cons first packets ih => exact congrArg _ (ih (onHttp1 outstanding first).2)

variable (hpack : Hpack D) (hyperframe : Hyperframe) (decoder : D)

theorem returned_snoc (d : HTTP2Decoder D) (packets : List TcpPacket) (packet : TcpPacket) :
    d.returned hpack hyperframe decoder (packets ++ [packet]) =
      d.returned hpack hyperframe decoder packets ++
        [(packet, ((d.processAll hpack hyperframe decoder packets).processTcpPacket hpack hyperframe
          decoder packet).1)] := by
  induction packets generalizing d with
  | nil => rfl
  | cons first packets ih =>
    exact congrArg _ (ih (d.processTcpPacket hpack hyperframe decoder first).2)

theorem processAll_snoc (d : HTTP2Decoder D) (packets : List TcpPacket) (packet : TcpPacket) :
    d.processAll hpack hyperframe decoder (packets ++ [packet]) =
      ((d.processAll hpack hyperframe decoder packets).processTcpPacket hpack hyperframe decoder
        packet).2 := by
  unfold HTTP2Decoder.processAll
  rw [List.foldl_append]
  rfl

/-! ## What is to be stored

What each protocol makes of its own packets, without a thought of the others and of whether the
sides are known. `Genuine` says that what is stored is this, as far as it can be. -/

/-- What HTTP/1 makes of its packets. -/
def http1Payloads (packets : List TcpPacket) : List Payload :=
  (storedFor (fun _ => none) packets).filterMap (·.2)

/-- What HTTP/2 makes of its packets. -/
def http2Payloads (packets : List TcpPacket) : List Payload :=
  ((HTTP2Decoder.new D).returned hpack hyperframe decoder packets).flatMap
    (·.2.map payloadOfStream)

/-- One packet of HTTP/1 more, and what it is handed over with. -/
theorem http1Payloads_snoc (packets : List TcpPacket) (packet : TcpPacket) :
    http1Payloads (packets ++ [packet]) =
      http1Payloads packets ++ (onHttp1 (outstandingAfter packets) packet).1.toList := by
  unfold http1Payloads outstandingAfter
  rw [storedFor_snoc, List.filterMap_append]
  refine congrArg _ ?_
  cases (onHttp1 (packets.foldl _ fun _ => none) packet).1 <;> rfl

/-- One packet of HTTP/2 more, and the streams that it completes. -/
theorem http2Payloads_snoc (packets : List TcpPacket) (packet : TcpPacket) :
    http2Payloads hpack hyperframe decoder (packets ++ [packet]) =
      http2Payloads hpack hyperframe decoder packets ++
        (((HTTP2Decoder.new D).processAll hpack hyperframe decoder packets).processTcpPacket hpack
          hyperframe decoder packet).1.map payloadOfStream := by
  unfold http2Payloads
  rw [returned_snoc, List.flatMap_append, List.flatMap_singleton]

/-- The entries of a protocol. -/
def Capture.entriesOf (c : Capture D) (protocol : Protocol) : List Entry :=
  c.reconstructedPayloads.filter (·.protocol = protocol)

/-- What is stored of some packets. -/
structure Genuine (c : Capture D) (packets : List Packet) : Prop where
  streams : c.http2Decoder =
    (HTTP2Decoder.new D).processAll hpack hyperframe decoder (http2Packets packets)
  outstanding : ∀ flow : Flow, flow.known = true →
    c.http1OutstandingRequests flow = outstandingAfter (http1Packets packets) flow
  http1 : c.entriesOf .http1 = (http1Payloads (http1Packets packets)).filterMap Payload.entry
  http2 : c.entriesOf .http2 =
    (http2Payloads hpack hyperframe decoder (http2Packets packets)).filterMap Payload.entry
  sctp : c.entriesOf .sctp = (packets.filterMap Packet.sctpPayload).filterMap Payload.entry

/-! ## A packet

A packet is skipped, or is of SCTP, HTTP/2 or HTTP/1. Each of these keeps `Genuine`: one of the
three lists of entries grows as it should, and the others stay. -/

theorem protocol_of_entry {p : Payload} {entry : Entry} (h : p.entry = some entry) :
    entry.protocol = p.protocol :=
  congrArg Payload.protocol (alias_of_entry h).1

/-- Payloads of one protocol are stored with the entries of that protocol, and with no others. All
steps below store in this way. -/
theorem entriesOf_append {c c' : Capture D} {payloads : List Payload} (protocol : Protocol)
    (hstored : c'.reconstructedPayloads =
      c.reconstructedPayloads ++ payloads.filterMap Payload.entry)
    (h : ∀ p ∈ payloads, p.protocol = protocol) (protocol' : Protocol) :
    c'.entriesOf protocol' =
      c.entriesOf protocol' ++
        if protocol = protocol' then payloads.filterMap Payload.entry else [] := by
  have hentry : ∀ entry ∈ payloads.filterMap Payload.entry, entry.protocol = protocol := by
    intro entry hmem
    obtain ⟨p, hp, hentry⟩ := List.mem_filterMap.mp hmem
    exact (protocol_of_entry hentry).trans (h p hp)
  unfold Capture.entriesOf
  rw [hstored, List.filter_append]
  refine congrArg _ ?_
  split
  · next heq =>
    rw [List.filter_eq_self]
    intro entry hmem
    exact decide_eq_true ((hentry entry hmem).trans heq)
  · next hne =>
    rw [List.filter_eq_nil_iff]
    intro entry hmem hprotocol
    exact hne ((hentry entry hmem).symm.trans (of_decide_eq_true hprotocol))

variable {hpack hyperframe decoder} {c : Capture D} {packets : List Packet} {packet : Packet}
  {tcp : TcpPacket}

theorem http1Packets_snoc (h : packet.tcpPacket = some tcp) :
    http1Packets (packets ++ [packet]) =
      http1Packets packets ++ if tcp.isHttp1 then [tcp] else [] := by
  unfold http1Packets
  rw [tcpPackets_snoc, h, Option.toList_some, List.filter_append, List.filter_singleton]
  cases tcp.isHttp1 <;> rfl

theorem http2Packets_snoc (h : packet.tcpPacket = some tcp) :
    http2Packets (packets ++ [packet]) =
      http2Packets packets ++ if tcp.isHttp2 then [tcp] else [] := by
  unfold http2Packets
  rw [tcpPackets_snoc, h, Option.toList_some, List.filter_append, List.filter_singleton]
  cases tcp.isHttp2 <;> rfl

/-- A packet that is processed as TCP has no payload of SCTP. -/
theorem sctpPayload_of_tcpPacket (h : packet.tcpPacket = some tcp) : packet.sctpPayload = none := by
  cases hsctp : packet.sctpPayload with
  | none => rfl
  | some p =>
    rw [packet.tcpPacket_of_sctpPayload hsctp] at h
    cases h

/-- A packet that nothing is done for, because it is filtered or has neither layer. The lists of
packets that the two parsers have seen stay as they are. -/
theorem Genuine.skip (h : Genuine hpack hyperframe decoder c packets)
    (hsctp : packet.sctpPayload = none) (htcp : packet.tcpPacket = none) :
    Genuine hpack hyperframe decoder c (packets ++ [packet]) := by
  have htcps : tcpPackets (packets ++ [packet]) = tcpPackets packets := by
    rw [tcpPackets_snoc, htcp, Option.toList_none, List.append_nil]
  refine ⟨?_, ?_, ?_, ?_, ?_⟩
  · unfold http2Packets
    rw [htcps]
    exact h.streams
  · unfold http1Packets
    rw [htcps]
    exact h.outstanding
  · unfold http1Packets
    rw [htcps]
    exact h.http1
  · unfold http2Packets
    rw [htcps]
    exact h.http2
  · rw [List.filterMap_append, List.filterMap_cons, hsctp, List.filterMap_nil, List.append_nil]
    exact h.sctp

/-- A payload of SCTP is stored as it is, or raises; neither parser is asked. So one list of entries
may grow, and all the rest stays. -/
theorem Genuine.sctpPacket {p : Payload} (h : Genuine hpack hyperframe decoder c packets)
    (hsctp : packet.sctpPayload = some p) :
    Genuine hpack hyperframe decoder (c.storeReconstructedPayload p).2 (packets ++ [packet]) := by
  have hprotocol : ∀ q ∈ [p], q.protocol = .sctp := by
    unfold Packet.sctpPayload at hsctp
    obtain ⟨ip, -, hip⟩ := Option.bind_eq_some_iff.mp hsctp
    obtain ⟨sctp, -, rfl⟩ := Option.map_eq_some_iff.mp hip
    intro q hq
    rw [List.mem_singleton.mp hq]
  have htcps : tcpPackets (packets ++ [packet]) = tcpPackets packets := by
    rw [tcpPackets_snoc, packet.tcpPacket_of_sctpPayload hsctp, Option.toList_none, List.append_nil]
  have hstate := (c.storeReconstructedPayload_eq p).1
  have hone : [p].filterMap Payload.entry = p.entry.toList := by
    rw [List.filterMap_cons]
    cases p.entry <;> rfl
  rw [← hone] at hstate
  have hentries := entriesOf_append (c := c) .sctp
    (congrArg Capture.reconstructedPayloads hstate) hprotocol
  -- streams, requests, and the entries of the three protocols
  refine ⟨?_, ?_, ?_, ?_, ?_⟩
  · unfold http2Packets
    rw [htcps, hstate]
    exact h.streams
  · unfold http1Packets
    rw [htcps, hstate]
    exact h.outstanding
  · unfold http1Packets
    rw [htcps, hentries, if_neg nofun, List.append_nil]
    exact h.http1
  · unfold http2Packets
    rw [htcps, hentries, if_neg nofun, List.append_nil]
    exact h.http2
  · rw [hentries, if_pos rfl, h.sctp, ← List.filterMap_append, List.filterMap_append (l := packets),
      List.filterMap_cons, hsctp]
    rfl

/-- A packet of HTTP/2. The decoder goes on with it, and the streams that it completes are stored;
where a side is not known nothing is, and the decoder has gone on all the same. -/
theorem Genuine.http2Packet (h : Genuine hpack hyperframe decoder c packets)
    (htcp : packet.tcpPacket = some tcp) (hhttp2 : tcp.isHttp2 = true) :
    Genuine hpack hyperframe decoder (c.processTcpPacketHttp2 hpack hyperframe decoder tcp).2
      (packets ++ [packet]) := by
  have hhttp1s : http1Packets (packets ++ [packet]) = http1Packets packets := by
    rw [http1Packets_snoc htcp, tcp.isHttp1_eq_not, hhttp2, Bool.not_true,
      if_neg Bool.false_ne_true, List.append_nil]
  have hhttp2s : http2Packets (packets ++ [packet]) = http2Packets packets ++ [tcp] := by
    rw [http2Packets_snoc htcp, if_pos hhttp2]
  have hsorted : c.http2Decoder.Sorted := by
    rw [h.streams]
    exact sorted_processAll hpack hyperframe decoder _
  have hstate := (Capture.processTcpPacketHttp2_eq hpack hyperframe decoder hsorted tcp).1
  have hentries := entriesOf_append (c := c) .http2
    (congrArg Capture.reconstructedPayloads hstate) (by
      intro p hp
      obtain ⟨result, -, rfl⟩ := List.mem_map.mp hp
      rfl)
  refine ⟨?_, ?_, ?_, ?_, ?_⟩
  · rw [hhttp2s, processAll_snoc, hstate, h.streams]
  · rw [hhttp1s, hstate]
    exact h.outstanding
  · rw [hhttp1s, hentries, if_neg nofun, List.append_nil]
    exact h.http1
  · rw [hhttp2s, hentries, if_pos rfl, h.http2, http2Payloads_snoc, List.filterMap_append,
      h.streams]
  · rw [hentries, if_neg nofun, List.append_nil, h.sctp, List.filterMap_append,
      List.filterMap_cons, sctpPayload_of_tcpPacket htcp, List.filterMap_nil, List.append_nil]

/-- A packet of HTTP/1. If its sides are known, what is outstanding for them is what it should be,
and so is what is stored; if not, nothing is stored either way. -/
theorem Genuine.http1Packet (h : Genuine hpack hyperframe decoder c packets)
    (htcp : packet.tcpPacket = some tcp) (hhttp1 : tcp.isHttp1 = true) :
    Genuine hpack hyperframe decoder (c.processTcpPacketHttp1 tcp) (packets ++ [packet]) := by
  have hhttp1s : http1Packets (packets ++ [packet]) = http1Packets packets ++ [tcp] := by
    rw [http1Packets_snoc htcp, if_pos hhttp1]
  have hhttp2s : http2Packets (packets ++ [packet]) = http2Packets packets := by
    rw [tcp.isHttp1_eq_not, Bool.not_eq_true'] at hhttp1
    rw [http2Packets_snoc htcp, hhttp1, if_neg Bool.false_ne_true, List.append_nil]
  have hstate := Capture.processTcpPacketHttp1_eq c tcp
  have hentries := entriesOf_append (c := c) .http1
    (congrArg Capture.reconstructedPayloads hstate) fun p hp =>
      (fst_onHttp1_known _ tcp p (Option.mem_toList.mp hp)).1
  refine ⟨?_, ?_, ?_, ?_, ?_⟩
  · rw [hhttp2s, hstate]
    exact h.streams
  · intro flow hflow
    rw [hhttp1s, hstate]
    unfold outstandingAfter
    rw [List.foldl_append]
    show (onHttp1 _ tcp).2 flow = (onHttp1 (outstandingAfter (http1Packets packets)) tcp).2 flow
    rw [snd_onHttp1, snd_onHttp1, h.outstanding flow hflow]
  · rw [hhttp1s, hentries, if_pos rfl, h.http1, http1Payloads_snoc, List.filterMap_append]
    refine congrArg _ ?_
    -- only with known sides does it matter what is outstanding
    cases hknown : tcp.known with
    | true =>
      have hflow : Flow.known (tcp.dst, tcp.src) = true := (Bool.and_comm _ _).trans hknown
      rw [fst_onHttp1_congr (h.outstanding _ hflow)]
    | false =>
      have hnone (outstanding : Outstanding) :
          (onHttp1 outstanding tcp).1.toList.filterMap Payload.entry = [] := by
        rw [List.filterMap_eq_nil_iff]
        intro p hp
        have hp := (fst_onHttp1_known _ tcp p (Option.mem_toList.mp hp)).2
        exact entry_of_not_known (hp.trans hknown)
      rw [hnone, hnone]
  · rw [hhttp2s, hentries, if_neg nofun, List.append_nil]
    exact h.http2
  · rw [hentries, if_neg nofun, List.append_nil, h.sctp, List.filterMap_append,
      List.filterMap_cons, sctpPayload_of_tcpPacket htcp, List.filterMap_nil, List.append_nil]

/-- A packet of HTTP/1 whose sides are not known. It is not counted among those of HTTP/1, and need
not be: nothing is stored for it and no known flow sees it. -/
theorem Genuine.unknownPacket (h : Genuine hpack hyperframe decoder c packets)
    (hknown : tcp.known = false) :
    Genuine hpack hyperframe decoder (c.processTcpPacketHttp1 tcp) packets := by
  have hnone : (onHttp1 c.http1OutstandingRequests tcp).1.toList.filterMap Payload.entry = [] := by
    rw [List.filterMap_eq_nil_iff]
    intro p hp
    have hp := (fst_onHttp1_known _ tcp p (Option.mem_toList.mp hp)).2
    exact entry_of_not_known (hp.trans hknown)
  rw [Capture.processTcpPacketHttp1_eq, hnone, List.append_nil]
  refine ⟨h.streams, fun flow hflow => ?_, h.http1, h.http2, h.sctp⟩
  exact (snd_onHttp1_of_not_known _ hknown hflow).trans (h.outstanding flow hflow)

theorem Genuine.sorted (h : Genuine hpack hyperframe decoder c packets) :
    c.http2Decoder.Sorted := by
  rw [h.streams]
  exact sorted_processAll hpack hyperframe decoder _

/-- HTTP/2 raises only over sides that are not known. So the packet that HTTP/1 is tried for then is
harmless. -/
theorem Genuine.http2_raises (h : Genuine hpack hyperframe decoder c packets) {err : PyError}
    {c' : Capture D}
    (herr : c.processTcpPacketHttp2 hpack hyperframe decoder tcp = (.error err, c')) :
    tcp.known = false := by
  have hok := (Capture.processTcpPacketHttp2_eq hpack hyperframe decoder h.sorted tcp).2
  rw [herr] at hok
  exact (Bool.or_eq_false_iff.mp hok.symm).2

/-- The four ways through `process_packet` for TCP: HTTP/2 by its look, HTTP/1 by its look, and
HTTP/2 for want of either, with HTTP/1 after an exception. -/
theorem Genuine.tcpPacket (h : Genuine hpack hyperframe decoder c packets)
    (htcp : packet.tcpPacket = some tcp) :
    Genuine hpack hyperframe decoder (c.processTcp hpack hyperframe decoder tcp).2
      (packets ++ [packet]) := by
  unfold Capture.processTcp
  cases hlooks2 : looksLikeHttp2 tcp.payload with
  | true =>
    refine h.http2Packet htcp ?_
    unfold TcpPacket.isHttp2
    rw [hlooks2, Bool.true_or]
  | false =>
    cases hlooks1 : looksLikeHttp1 tcp.payload with
    | true =>
      refine h.http1Packet htcp ?_
      unfold TcpPacket.isHttp1
      rw [hlooks2, hlooks1]
      rfl
    | false =>
      have hhttp2 : tcp.isHttp2 = true := by
        unfold TcpPacket.isHttp2
        rw [hlooks1, Bool.not_false, Bool.or_true]
      have hnext := h.http2Packet htcp hhttp2
      rw [if_neg Bool.false_ne_true, if_neg Bool.false_ne_true]
      cases hresult : c.processTcpPacketHttp2 hpack hyperframe decoder tcp with
      | mk res c' =>
        rw [hresult] at hnext
        cases res with
        | ok => exact hnext
        -- HTTP/1 is tried, for a packet with unknown sides
        | error err => exact hnext.unknownPacket (h.http2_raises hresult)

/-- **A packet.** Whatever it is, and also if it raises: what was stored before it raised stays. -/
theorem genuine_processPacket (h : Genuine hpack hyperframe decoder c packets) (packet : Packet) :
    Genuine hpack hyperframe decoder (c.processPacket hpack hyperframe decoder packet).2
      (packets ++ [packet]) := by
  rw [processPacket_eq]
  cases hsctp : packet.sctpPayload with
  | some p => exact h.sctpPacket hsctp
  | none =>
    cases htcp : packet.tcpPacket with
    | some tcp => exact h.tcpPacket htcp
    | none => exact h.skip hsctp htcp

/-! ## Exceptions

An exception ends the loop over a file. Which packets raise one can be said of the packets alone,
without the state of the capture. -/

variable (hpack hyperframe decoder) in
/-- A packet that nothing can be stored for, as a side of it is not known: of SCTP, or with a stream
of HTTP/2 that is complete, where only HTTP/2 is tried. -/
def Raises (packets : List Packet) (packet : Packet) : Prop :=
  (∃ p, packet.sctpPayload = some p ∧ p.known = false) ∨
    ∃ tcp, packet.tcpPacket = some tcp ∧ tcp.known = false ∧ looksLikeHttp2 tcp.payload = true ∧
      (((HTTP2Decoder.new D).processAll hpack hyperframe decoder
        (http2Packets packets)).processTcpPacket hpack hyperframe decoder tcp).1 ≠ []

/-- **Which packets raise an exception.** By `Genuine` the decoder is the one of the packets so far,
so `Raises` speaks of the same results. -/
theorem raises_iff (h : Genuine hpack hyperframe decoder c packets) (packet : Packet) :
    (c.processPacket hpack hyperframe decoder packet).1.isOk = false ↔
      Raises hpack hyperframe decoder packets packet := by
  rw [processPacket_eq]
  unfold Raises
  -- SCTP raises over its sides alone
  cases hsctp : packet.sctpPayload with
  | some p =>
    rw [packet.tcpPacket_of_sctpPayload hsctp]
    dsimp only
    rw [(c.storeReconstructedPayload_eq p).2]
    refine ⟨fun hknown => .inl ⟨p, rfl, hknown⟩, ?_⟩
    rintro (⟨q, hq, hknown⟩ | ⟨tcp, htcp, -⟩)
    · cases hq
      exact hknown
    · cases htcp
  | none =>
    cases htcp : packet.tcpPacket with
    | none =>
      refine iff_of_false nofun ?_
      rintro (⟨p, hp, -⟩ | ⟨tcp, htcp, -⟩)
      · cases hp
      · cases htcp
    | some tcp =>
      have hok := (Capture.processTcpPacketHttp2_eq hpack hyperframe decoder h.sorted tcp).2
      rw [h.streams] at hok
      have hraises : (c.processTcp hpack hyperframe decoder tcp).1.isOk = false ↔
          tcp.known = false ∧ looksLikeHttp2 tcp.payload = true ∧
            (((HTTP2Decoder.new D).processAll hpack hyperframe decoder
              (http2Packets packets)).processTcpPacket hpack hyperframe decoder tcp).1 ≠ [] := by
        unfold Capture.processTcp
        -- what does not look like HTTP/2 is caught, and tried with HTTP/1
        cases hlooks2 : looksLikeHttp2 tcp.payload with
        | true =>
          rw [if_pos rfl, hok, Bool.or_eq_false_iff, ← List.isEmpty_eq_false_iff]
          exact ⟨fun ⟨hsome, hknown⟩ => ⟨hknown, rfl, hsome⟩,
            fun ⟨hknown, _, hsome⟩ => ⟨hsome, hknown⟩⟩
        | false =>
          refine iff_of_false ?_ nofun
          rw [if_neg Bool.false_ne_true]
          split
          · nofun
          · split <;> nofun
      dsimp only
      rw [hraises]
      refine ⟨fun h => .inr ⟨tcp, rfl, h⟩, ?_⟩
      rintro (⟨p, hp, -⟩ | ⟨tcp, htcp, h⟩)
      · cases hp
      · cases htcp
        exact h

/-! ## Files

A file is processed to its end, or with the first packet that raises; the next file goes on with the
state that is left. So over many files the packets that are processed are one list, and `Genuine` is
about that. -/

/-- A packet is counted by the loop, and not by what is done with it. No function that it calls
writes the count. -/
theorem Genuine.totalPacketsCount (h : Genuine hpack hyperframe decoder c packets)
    (packet : Packet) :
    (c.processPacket hpack hyperframe decoder packet).2.totalPacketsCount =
      c.totalPacketsCount := by
  rw [processPacket_eq]
  cases packet.sctpPayload with
  | some p =>
    dsimp only
    rw [(c.storeReconstructedPayload_eq p).1]
  | none =>
    cases packet.tcpPacket with
    | none => rfl
    | some tcp =>
      have hhttp2 := congrArg Capture.totalPacketsCount
        (Capture.processTcpPacketHttp2_eq hpack hyperframe decoder h.sorted tcp).1
      have hhttp1 (c : Capture D) : (c.processTcpPacketHttp1 tcp).totalPacketsCount =
          c.totalPacketsCount := by rw [c.processTcpPacketHttp1_eq tcp]
      dsimp only
      unfold Capture.processTcp
      split
      · exact hhttp2
      · split
        · exact hhttp1 c
        · cases hresult : c.processTcpPacketHttp2 hpack hyperframe decoder tcp with
          | mk res c' =>
            rw [hresult] at hhttp2
            cases res with
            | ok => exact hhttp2
            | error err => exact (hhttp1 c').trans hhttp2

/-- The count is of no account for what is stored. -/
theorem Genuine.count (h : Genuine hpack hyperframe decoder c packets) (n : Nat) :
    Genuine hpack hyperframe decoder { c with totalPacketsCount := n } packets :=
  ⟨h.streams, h.outstanding, h.http1, h.http2, h.sctp⟩

variable (hpack hyperframe decoder)

/-- No packet of a file raises an exception. -/
def Quiet (packets file : List Packet) : Prop :=
  ∀ before packet behind, file = before ++ packet :: behind →
    ¬ Raises hpack hyperframe decoder (packets ++ before) packet

/-- How far a file is processed after some packets, and how many of its packets are counted: to the
end, or with the first packet that raises an exception. -/
inductive Ends (packets : List Packet) : List Packet → List Packet → Nat → Prop where
  | all {file : List Packet} (hquiet : Quiet hpack hyperframe decoder packets file) :
      Ends packets file file file.length
  | raised {before behind : List Packet} {packet : Packet}
      (hquiet : Quiet hpack hyperframe decoder packets before)
      (hraises : Raises hpack hyperframe decoder (packets ++ before) packet) :
      Ends packets (before ++ packet :: behind) (before ++ [packet]) before.length

/-- A file is quiet if its first packet is, and the rest after it. -/
theorem Quiet.cons {packets file : List Packet} {packet : Packet}
    (hpacket : ¬ Raises hpack hyperframe decoder packets packet)
    (h : Quiet hpack hyperframe decoder (packets ++ [packet]) file) :
    Quiet hpack hyperframe decoder packets (packet :: file) := by
  intro before packet' behind heq
  cases before with
  | nil =>
    cases heq
    rw [List.append_nil]
    exact hpacket
  | cons first before =>
    cases heq
    have hnext := h before packet' behind rfl
    rw [List.append_assoc] at hnext
    exact hnext

/-- A packet that does not raise is processed, and the file ends where its rest does. -/
theorem Ends.cons {packets file processed : List Packet} {packet : Packet} {n : Nat}
    (hpacket : ¬ Raises hpack hyperframe decoder packets packet)
    (h : Ends hpack hyperframe decoder (packets ++ [packet]) file processed n) :
    Ends hpack hyperframe decoder packets (packet :: file) (packet :: processed) (n + 1) := by
  cases h with
  | all hquiet => exact .all (hquiet.cons _ _ _ hpacket)
  | raised hquiet hraises =>
    rw [List.append_assoc] at hraises
    have hcons := hquiet.cons _ _ _ hpacket
    rw [← List.cons_append, ← List.cons_append]
    exact .raised hcons hraises

variable {hpack hyperframe decoder}

/-- **How far a file is processed.** By induction on its packets; each is `genuine_processPacket`,
and `raises_iff` says whether the loop goes on. -/
theorem processPackets_ends (h : Genuine hpack hyperframe decoder c packets) (file : List Packet) :
    ∃ processed n, Ends hpack hyperframe decoder packets file processed n ∧
      Genuine hpack hyperframe decoder (c.processPackets hpack hyperframe decoder file)
        (packets ++ processed) ∧
      (c.processPackets hpack hyperframe decoder file).totalPacketsCount =
        c.totalPacketsCount + n := by
  induction file generalizing c packets with
  | nil =>
    refine ⟨[], 0, .all ?_, ?_, rfl⟩
    · intro before packet behind heq
      exact absurd heq (by simp)
    · rw [List.append_nil]
      exact h
  | cons packet file ih =>
    have hnext := genuine_processPacket h packet
    have hraises := raises_iff h packet
    have hcount : (c.processPacket hpack hyperframe decoder packet).2.totalPacketsCount =
        c.totalPacketsCount := h.totalPacketsCount packet
    unfold Capture.processPackets
    cases hresult : c.processPacket hpack hyperframe decoder packet with
    | mk res c' =>
      rw [hresult] at hnext hraises hcount
      cases res with
      | ok =>
        obtain ⟨processed, n, hends, hgenuine, htotal⟩ := ih (hnext.count (c'.totalPacketsCount + 1))
        refine ⟨packet :: processed, n + 1, hends.cons _ _ _ (hraises.not.mp nofun), ?_, ?_⟩
        · rw [List.append_assoc] at hgenuine
          exact hgenuine
        · rw [htotal]
          dsimp only at hcount ⊢
          omega
      -- the loop ends here; the packet is processed, but not counted
      | error err =>
        refine ⟨[packet], 0, ?_, hnext, hcount⟩
        have hquiet : Quiet hpack hyperframe decoder packets [] := by
          intro before packet behind heq
          exact absurd heq (by simp)
        refine .raised hquiet ?_
        rw [List.append_nil]
        exact hraises.mp rfl

variable (hpack hyperframe decoder)

/-- The files, one after the other: each is read, or not. -/
def Capture.processFiles (c : Capture D) (files : List (Except PyError (List Packet))) : Capture D :=
  files.foldl (fun c rdpcap => c.processPcapFile hpack hyperframe decoder rdpcap) c

/-- The packets that are processed of files, and how many of them are counted. -/
inductive Processed : List (Except PyError (List Packet)) → List Packet → Nat → Prop where
  | nil : Processed [] [] 0
  | unreadable {files : List (Except PyError (List Packet))} {packets : List Packet} {n : Nat}
      (h : Processed files packets n) (err : PyError) :
      Processed (files ++ [.error err]) packets n
  | file {files : List (Except PyError (List Packet))} {packets file processed : List Packet}
      {n m : Nat} (h : Processed files packets n)
      (hends : Ends hpack hyperframe decoder packets file processed m) :
      Processed (files ++ [.ok file]) (packets ++ processed) (n + m)

theorem genuine_new : Genuine hpack hyperframe decoder (Capture.new D) [] :=
  ⟨rfl, fun _ _ => rfl, rfl, rfl, rfl⟩

/-- The packets that are processed, and what is kept of them. By induction on the files, from the
last one; one that cannot be read is passed over. -/
theorem exists_processed (files : List (Except PyError (List Packet))) :
    let c := (Capture.new D).processFiles hpack hyperframe decoder files
    ∃ packets, Processed hpack hyperframe decoder files packets c.totalPacketsCount ∧
      Genuine hpack hyperframe decoder c packets := by
  induction files using List.reverseRecOn with
  | nil => exact ⟨[], .nil, genuine_new hpack hyperframe decoder⟩
  | append_singleton files rdpcap ih =>
    obtain ⟨packets, hprocessed, hgenuine⟩ := ih
    unfold Capture.processFiles
    rw [List.foldl_append]
    cases rdpcap with
    | error err => exact ⟨packets, hprocessed.unreadable err, hgenuine⟩
    | ok file =>
      obtain ⟨processed, n, hends, hgenuine', hcount⟩ := processPackets_ends hgenuine file
      refine ⟨packets ++ processed, ?_, hgenuine'⟩
      have hnext := hprocessed.file hends
      rw [← hcount] at hnext
      exact hnext

/-- The packets of a file; none, if it is not read. -/
def packetsOf : Except PyError (List Packet) → List Packet
  | .ok file => file
  | .error _ => []

/-- A packet whose sides are known raises nothing, whatever came before it. Both ways to raise need
a side without a name. -/
theorem not_raises_of_known {packet : Packet}
    (h : ∀ ip ∈ packet.sides, isTarget ip.1 = true ∧ isTarget ip.2 = true) (packets : List Packet) :
    ¬ Raises hpack hyperframe decoder packets packet := by
  have hknown {ip : List Char × List Char} (hip : packet.sides = some ip) :
      (isTarget ip.1 && isTarget ip.2) = true := Bool.and_eq_true_iff.mpr (h ip hip)
  rintro (⟨p, hsctp, hp⟩ | ⟨tcp, htcp, hp, -⟩)
  · unfold Packet.sctpPayload at hsctp
    obtain ⟨ip, hip, hsctp⟩ := Option.bind_eq_some_iff.mp hsctp
    obtain ⟨sctp, -, rfl⟩ := Option.map_eq_some_iff.mp hsctp
    exact absurd (hp.symm.trans (hknown hip)) Bool.false_ne_true
  · unfold Packet.tcpPacket at htcp
    obtain ⟨ip, hip, htcp⟩ := Option.bind_eq_some_iff.mp htcp
    split at htcp
    · cases htcp
    · obtain ⟨transport, -, rfl⟩ := Option.map_eq_some_iff.mp htcp
      exact absurd (hp.symm.trans (hknown hip)) Bool.false_ne_true

/-- **Every packet is processed,** if all sides are known of those that are not ignored. Then no
file ends early, and the count is that of the packets. -/
theorem processed_of_known {files : List (Except PyError (List Packet))} {packets : List Packet}
    {n : Nat} (h : Processed hpack hyperframe decoder files packets n)
    (hknown : ∀ rdpcap ∈ files, ∀ packet ∈ packetsOf rdpcap, ∀ ip ∈ packet.sides,
      isTarget ip.1 = true ∧ isTarget ip.2 = true) :
    packets = files.flatMap packetsOf ∧ n = packets.length := by
  induction h with
  | nil => exact ⟨rfl, rfl⟩
  | unreadable h err ih =>
    obtain ⟨hpackets, hn⟩ := ih fun rdpcap hmem => hknown rdpcap (List.mem_append_left _ hmem)
    rw [List.flatMap_append, ← hpackets]
    exact ⟨(List.append_nil _).symm, hn⟩
  | @file files packets file processed n m h hends ih =>
    obtain ⟨hpackets, hn⟩ := ih fun rdpcap hmem => hknown rdpcap (List.mem_append_left _ hmem)
    have hfile := hknown (.ok file) (List.mem_append_right _ (List.mem_singleton_self _))
    rw [List.flatMap_append, ← hpackets, List.flatMap_singleton]
    cases hends with
    | all hquiet =>
      rw [List.length_append, hn]
      exact ⟨rfl, rfl⟩
    -- no packet of the file raises
    | @raised before behind packet hquiet hraises =>
      exact absurd hraises (not_raises_of_known hpack hyperframe decoder
        (hfile packet (List.mem_append_right _ (List.mem_cons_self ..))) _)

/-- **What is stored of files.** Of each file that is read the packets are processed up to the first
that raises an exception, and what is stored is what they say. With known sides none raises, and
everything is processed and counted. -/
theorem genuine_processFiles (files : List (Except PyError (List Packet))) :
    let c := (Capture.new D).processFiles hpack hyperframe decoder files
    ∃ packets, Processed hpack hyperframe decoder files packets c.totalPacketsCount ∧
      Genuine hpack hyperframe decoder c packets ∧
      ((∀ rdpcap ∈ files, ∀ packet ∈ packetsOf rdpcap, ∀ ip ∈ packet.sides,
          isTarget ip.1 = true ∧ isTarget ip.2 = true) →
        packets = files.flatMap packetsOf ∧ c.totalPacketsCount = packets.length) := by
  obtain ⟨packets, hprocessed, hgenuine⟩ := exists_processed hpack hyperframe decoder files
  exact ⟨packets, hprocessed, hgenuine, processed_of_known hpack hyperframe decoder hprocessed⟩

end UnifyAir.Sniffer
