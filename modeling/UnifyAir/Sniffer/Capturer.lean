import UnifyAir.Sniffer.Http1
import UnifyAir.Sniffer.Reports

/-!
# UnifyAir — the packet processor of the integration tests

`tests/integration/sniffer/capturer.py`. The packets of a capture file are processed one after the
other. SCTP payloads, HTTP/1 messages and completed HTTP/2 streams are stored, with the names of
both sides; a response of HTTP/1 is stored together with the request that is outstanding for it.

What a function leaves when it raises is in the state that is returned with the exception. UDP
packets are only logged. The insertion into the database raises nothing and is left out, as are the
time of an entry and the logging; the decoder is there from the start.
-/

namespace UnifyAir.Sniffer

/-! ## Addresses

The two tables that are in the configuration, and the test that `process_packet` makes with each. -/

/-- `IP_TO_ALIAS`; its keys are `TARGET_IPS`. -/
def IP_TO_ALIAS : List (List Char × String) :=
  [("10.0.0.2".toList, "amf"), ("10.0.0.3".toList, "smf"), ("10.0.0.4".toList, "upf"),
    ("10.0.0.5".toList, "nrf"), ("10.0.0.6".toList, "ausf"), ("10.0.0.7".toList, "pcf"),
    ("10.0.0.8".toList, "nssf"), ("10.0.0.9".toList, "udm"), ("10.0.0.10".toList, "udr"),
    ("10.0.0.12".toList, "chf"), ("10.0.0.24".toList, "nef"), ("10.0.1.0".toList, "gnb")]

/-- The keys of `IGNORE_IP_TO_ALIAS`. -/
def IGNORE_IP_TO_ALIAS : List (List Char) :=
  ["10.0.100.0".toList, "10.0.255.0".toList, "10.0.255.1".toList]

def isTarget (ip : List Char) : Bool := (IP_TO_ALIAS.lookup ip).isSome

def isIgnored (ip : List Char) : Bool := IGNORE_IP_TO_ALIAS.contains ip

/-! ## What is stored

`store_reconstructed_payload` looks for the names of both sides, and raises a `KeyError` if one is
missing. Only then is anything appended. -/

inductive Protocol where
  | http1
  | http2
  | sctp
  deriving DecidableEq, Repr

/-- `additional_data` of a completed stream. -/
structure AdditionalData where
  clientTrailers : Headers
  serverTrailers : Headers
  /-- `connection`. -/
  clientAddr : Address
  serverAddr : Address
  settings : Settings
  deriving DecidableEq, Repr

/-- The arguments of `store_reconstructed_payload`. -/
structure Payload where
  protocol : Protocol
  src : Address
  dst : Address
  reqHeaders : Option Headers := none
  path : Option (List Char) := none
  payload : Option Bytes := none
  request : Option Bytes := none
  response : Option Bytes := none
  respHeaders : Option Headers := none
  respStatus : Option (List Char) := none
  respReason : Option (List Char) := none
  method : Option (List Char) := none
  additionalData : Option AdditionalData := none
  deriving DecidableEq, Repr

/-- An entry of `reconstructed_payloads`. -/
structure Entry extends Payload where
  srcAlias : String
  dstAlias : String
  deriving DecidableEq, Repr

/-- `IP_TO_ALIAS[ip]`. -/
def aliasOf (ip : List Char) : Except PyError String :=
  match IP_TO_ALIAS.lookup ip with
  | some name => .ok name
  | none => .error (String.ofList ip)

/-- The entry that is made of its arguments. -/
def Entry.ofPayload (p : Payload) : Except PyError Entry := do
  let srcIpAlias ← aliasOf p.src.1
  let dstIpAlias ← aliasOf p.dst.1
  return { p with srcAlias := srcIpAlias, dstAlias := dstIpAlias }

/-! ## HTTP/1

The branches of `process_tcp_packet_http1` are one function here, of the message and of what is
outstanding. It does not store; the exception of the store is the next section's matter. -/

/-- The sides of a request: who sends it, and to whom. -/
abbrev Flow := Address × Address

/-- The requests without a response. -/
abbrev Outstanding := Flow → Option Http1Request

/-- What `process_tcp_packet_http1` stores for a packet, and the requests that are outstanding
then. -/
def onHttp1 (outstanding : Outstanding) (packet : TcpPacket) : Option Payload × Outstanding :=
  let message := Http1Message.ofPayload packet.payload
  match message.start with
  | .request method path =>
    (none, Function.update outstanding (packet.src, packet.dst)
      (some ⟨message.headers, path, message.body, method⟩))
  | .response respStatus respReason =>
    let key := (packet.dst, packet.src)
    match outstanding key with
    | some req =>
      -- the sides are those of the request
      (some
        { protocol := .http1
          src := packet.dst
          dst := packet.src
          method := some req.method
          reqHeaders := some req.headers
          path := some req.path
          request := some req.request
          respHeaders := some message.headers
          respStatus := some respStatus
          respReason := respReason
          response := some message.body }, Function.update outstanding key none)
    | none =>
      (some
        { protocol := .http1
          src := packet.src
          dst := packet.dst
          respHeaders := some message.headers
          path := some []
          response := some message.body
          respStatus := some respStatus
          respReason := respReason }, outstanding)
  | .unclassified =>
    (some
      { protocol := .http1
        src := packet.src
        dst := packet.dst
        payload := some packet.payload }, outstanding)

/-! ## HTTP/2

What is read of a result of the decoder. -/

/-- `find_in_pairs`. -/
def findInPairs (pairs : Headers) (key : List Char) : Option (List Char) := pairs.lookup key

/-- What is stored for a completed stream; a result has neither `resp_status` nor `resp_reason`. -/
def payloadOfStream (result : StreamDict) : Payload where
  protocol := .http2
  src := (result.srcIp, result.srcPort)
  dst := (result.dstIp, result.dstPort)
  reqHeaders := some result.clientHeaders
  respHeaders := some result.serverHeaders
  request := some result.clientData
  response := some result.serverData
  method := findInPairs result.clientHeaders ":method".toList
  path := findInPairs result.clientHeaders ":path".toList
  additionalData := some
    { clientTrailers := result.clientTrailers
      serverTrailers := result.serverTrailers
      clientAddr := result.clientAddr
      serverAddr := result.serverAddr
      settings := result.settings }

/-! ## Packets

From the layers of a packet to the loop over a file. A function that may raise returns its exception
beside the state it leaves. -/

/-- A layer above IP. -/
structure Transport where
  sport : Nat
  dport : Nat
  payload : Bytes
  deriving DecidableEq, Repr

/-- The layers of a packet. -/
structure Packet where
  /-- `src` and `dst`. -/
  ip : Option (List Char × List Char)
  sctp : Option Transport
  tcp : Option Transport
  deriving DecidableEq, Repr

/-- The global variables. -/
structure Capture (D : Type) where
  http2Decoder : HTTP2Decoder D
  http1OutstandingRequests : Outstanding
  reconstructedPayloads : List Entry
  totalPacketsCount : Nat

variable {D : Type}

namespace Capture

def new (D : Type) : Capture D where
  http2Decoder := .new D
  http1OutstandingRequests := fun _ => none
  reconstructedPayloads := []
  totalPacketsCount := 0

/-- `store_reconstructed_payload`. -/
def storeReconstructedPayload (c : Capture D) (p : Payload) : Except PyError Unit × Capture D :=
  match Entry.ofPayload p with
  | .ok entry => (.ok (), { c with reconstructedPayloads := c.reconstructedPayloads ++ [entry] })
  | .error err => (.error err, c)

/-- `process_tcp_packet_http1`. An exception is caught, when the request has been taken away. -/
def processTcpPacketHttp1 (c : Capture D) (packet : TcpPacket) : Capture D :=
  let (payload, outstanding) := onHttp1 c.http1OutstandingRequests packet
  let c := { c with http1OutstandingRequests := outstanding }
  match payload with
  | some payload => (c.storeReconstructedPayload payload).2
  | none => c

/-- The loop over the results. -/
def storeResults (c : Capture D) : List StreamDict → Except PyError Unit × Capture D
  | [] => (.ok (), c)
  | result :: results =>
    match c.storeReconstructedPayload (payloadOfStream result) with
    | (.ok (), c) => storeResults c results
    | (.error err, c) => (.error err, c)

variable (hpack : Hpack D) (hyperframe : Hyperframe) (decoder : D)

/-- `process_tcp_packet_http2`. -/
def processTcpPacketHttp2 (c : Capture D) (packet : TcpPacket) :
    Except PyError Unit × Capture D :=
  let (results, http2Decoder) := c.http2Decoder.processTcpPacket hpack hyperframe decoder packet
  storeResults { c with http2Decoder := http2Decoder } results

end Capture

/-- A payload that is taken for HTTP/2: `PRI * HTTP/2.0` in front, or `:method` anywhere. -/
def looksLikeHttp2 (payload : Bytes) : Bool :=
  http2Preface.take 14 <+: payload ||
    (find [0x3A, 0x6D, 0x65, 0x74, 0x68, 0x6F, 0x64] payload).isSome

/-- A payload that is taken for HTTP/1: a method and a blank in front, or `HTTP/`. -/
def looksLikeHttp1 (payload : Bytes) : Bool :=
  (HTTP_METHODS.any fun method => method.flatMap String.utf8EncodeChar ++ [0x20] <+: payload) ||
    [0x48, 0x54, 0x54, 0x50, 0x2F] <+: payload

namespace Capture

variable (hpack : Hpack D) (hyperframe : Hyperframe) (decoder : D)

/-- What `process_packet` does with the TCP layer. -/
def processTcp (c : Capture D) (packet : TcpPacket) : Except PyError Unit × Capture D :=
  if looksLikeHttp2 packet.payload then
    c.processTcpPacketHttp2 hpack hyperframe decoder packet
  else if looksLikeHttp1 packet.payload then (.ok (), c.processTcpPacketHttp1 packet)
  else match c.processTcpPacketHttp2 hpack hyperframe decoder packet with
    | (.ok (), c) => (.ok (), c)
    -- what the decoder has learnt stays, and HTTP/1 is tried
    | (.error _, c) => (.ok (), c.processTcpPacketHttp1 packet)

/-- `process_packet`. -/
def processPacket (c : Capture D) (packet : Packet) : Except PyError Unit × Capture D :=
  match packet.ip with
  | none => (.ok (), c)
  | some (srcIp, dstIp) =>
    if ¬ isTarget srcIp ∧ ¬ isTarget dstIp then (.ok (), c)
    else if isIgnored srcIp ∨ isIgnored dstIp then (.ok (), c)
    else match packet.sctp with
      | some sctp => c.storeReconstructedPayload
        { protocol := .sctp
          src := (srcIp, sctp.sport)
          dst := (dstIp, sctp.dport)
          payload := some sctp.payload }
      | none => match packet.tcp with
        | some tcp => c.processTcp hpack hyperframe decoder
          { src := (srcIp, tcp.sport), dst := (dstIp, tcp.dport), payload := tcp.payload }
        | none => (.ok (), c)

/-- The loop of `process_pcap_file`, up to the end or to an exception. -/
def processPackets (c : Capture D) : List Packet → Capture D
  | [] => c
  | packet :: packets =>
    match c.processPacket hpack hyperframe decoder packet with
    | (.ok (), c) => processPackets { c with totalPacketsCount := c.totalPacketsCount + 1 } packets
    -- the packets behind it are not looked at
    | (.error _, c) => c

/-- `process_pcap_file`; `rdpcap` raises, or reads the packets. -/
def processPcapFile (c : Capture D) (rdpcap : Except PyError (List Packet)) : Capture D :=
  match rdpcap with
  | .ok packets => c.processPackets hpack hyperframe decoder packets
  | .error _ => c

end Capture

end UnifyAir.Sniffer
