import Mathlib.Data.Char
import Mathlib.Data.List.Lex
import UnifyAir.Sniffer.Insertion
import UnifyAir.Store.Keyed

/-!
# UnifyAir — connections and completed streams

`HTTP2Decoder` of `h2_decoder/decoder.py`. It finds the connection of a packet by the addresses of
both sides, whichever of them sends it. A connection is there from the packet that has the preface
on; before that, packets are passed over. After each packet the streams that both sides have
completed are taken out of the connection and returned.

The count of packets, which only the log has, and `preface_seen`, which nothing reads, are left out.

* **`processTcpPacket_eq`** — each connection is a machine of its own.
-/

namespace UnifyAir.Sniffer

/-- The IP address and the port of a side. -/
abbrev Address := List Char × Nat

/-- `<` of two such tuples. -/
def Address.lt (a b : Address) : Prop := a.1 < b.1 ∨ a.1 = b.1 ∧ a.2 < b.2

instance (a b : Address) : Decidable (a.lt b) := inferInstanceAs (Decidable (_ ∨ _ ∧ _))

/-- The layers IP and TCP of a packet, as far as they are read. -/
structure TcpPacket where
  /-- `(ip_layer.src, tcp_layer.sport)`. -/
  src : Address
  /-- `(ip_layer.dst, tcp_layer.dport)`. -/
  dst : Address
  payload : Bytes
  deriving DecidableEq, Repr

abbrev ConnTuple := List Char × List Char × Nat × Nat

/-- `canonical_conn_tuple`. -/
def TcpPacket.canonicalConnTuple (packet : TcpPacket) : ConnTuple :=
  if packet.src.lt packet.dst then
    (packet.src.1, packet.dst.1, packet.src.2, packet.dst.2)
  else (packet.dst.1, packet.src.1, packet.dst.2, packet.src.2)

/-- `self.http2_preface`. -/
def http2Preface : Bytes :=
  [0x50, 0x52, 0x49, 0x20, 0x2A, 0x20, 0x48, 0x54, 0x54, 0x50, 0x2F, 0x32, 0x2E, 0x30, 0x0D, 0x0A,
    0x0D, 0x0A, 0x53, 0x4D, 0x0D, 0x0A, 0x0D, 0x0A]

/-- `payload.find(pattern)`: where it is first found. -/
def find (pattern : Bytes) : Bytes → Option Nat
  | [] => if pattern = [] then some 0 else none
  | b :: rest => if pattern <+: b :: rest then some 0 else (find pattern rest).map (· + 1)

example : find [0x0D, 0x0A] [0x50, 0x0D, 0x0D, 0x0A] = some 2 := by decide

/-- `HTTP2Connection`, with its addresses and what the decoder puts there. -/
structure Connection (D : Type) extends HTTP2Connection D where
  clientAddr : Address
  serverAddr : Address
  endedStreamIds : Nat → Bool
  /-- The keys of `streams`, in order. -/
  streamIds : List Nat

/-- What is returned for a completed stream. -/
structure StreamDict where
  srcIp : List Char
  srcPort : Nat
  dstIp : List Char
  dstPort : Nat
  streamId : Nat
  clientHeaders : Headers
  clientData : Bytes
  serverHeaders : Headers
  serverData : Bytes
  clientTrailers : Headers
  serverTrailers : Headers
  clientComplete : Bool
  serverComplete : Bool
  /-- `connection`. -/
  clientAddr : Address
  serverAddr : Address
  settings : Settings
  deriving DecidableEq, Repr

variable {D : Type}

namespace Connection

/-- A connection for which the preface was seen. -/
def new (decoder : D) (clientAddr serverAddr : Address) : Connection D where
  toHTTP2Connection := .new decoder
  clientAddr := clientAddr
  serverAddr := serverAddr
  endedStreamIds := fun _ => false
  streamIds := []

/-- `_stream_to_dict`. -/
def streamToDict (connection : Connection D) (stream : HTTP2Stream) : StreamDict where
  srcIp := connection.clientAddr.1
  srcPort := connection.clientAddr.2
  dstIp := connection.serverAddr.1
  dstPort := connection.serverAddr.2
  streamId := stream.streamId
  clientHeaders := stream.clientHeaders
  clientData := stream.clientData
  serverHeaders := stream.serverHeaders
  serverData := stream.serverData
  clientTrailers := stream.clientTrailers
  serverTrailers := stream.serverTrailers
  clientComplete := stream.clientComplete
  serverComplete := stream.serverComplete
  clientAddr := connection.clientAddr
  serverAddr := connection.serverAddr
  settings := connection.settings

/-- The body of the loop over the streams: what is appended to `completed`. -/
def completedAt (connection : Connection D) (streamId : Nat) : Option StreamDict :=
  match connection.streams streamId with
  | some stream =>
    if stream.serverComplete && stream.clientComplete && !connection.endedStreamIds streamId then
      some (connection.streamToDict stream)
    else none
  | none => none

/-- `_collect_and_remove_completed_streams`. -/
def collectAndRemoveCompletedStreams (connection : Connection D) :
    List StreamDict × Connection D :=
  let completed := connection.streamIds.filterMap connection.completedAt
  let toRemove :=
    connection.streamIds.filter fun streamId => (connection.completedAt streamId).isSome
  (completed,
    { connection with
      endedStreamIds := fun streamId => connection.endedStreamIds streamId || streamId ∈ toRemove
      streams := fun streamId =>
        if streamId ∈ toRemove then none else connection.streams streamId
      streamIds := connection.streamIds.filter (· ∉ toRemove) })

end Connection

/-- `HTTP2Decoder`. -/
structure HTTP2Decoder (D : Type) where
  connections : ConnTuple → Option (Connection D)

/-- `HTTP2Decoder.__init__`. -/
def HTTP2Decoder.new (D : Type) : HTTP2Decoder D where
  connections := fun _ => none

variable (hpack : Hpack D) (hyperframe : Hyperframe) (decoder : D)

namespace Connection

/-- What arrives from a side is put behind its buffer, and the buffer is parsed. -/
def receive (connection : Connection D) (fromClient : Bool) (payload : Bytes) : Connection D :=
  { connection with
    toHTTP2Connection :=
      connection.toHTTP2Connection.receive hpack hyperframe fromClient payload
    streamIds :=
      ((Http2.Frame.format.units (connection.buffer fromClient ++ payload)).1.foldl
        (insertFrame hpack hyperframe fromClient) (connection.toSession, connection.streamIds)).2 }

/-- What arrives, with the streams that are completed then. -/
def arrive (connection : Connection D) (fromClient : Bool) (payload : Bytes) :
    List StreamDict × Connection D :=
  (connection.receive hpack hyperframe fromClient payload).collectAndRemoveCompletedStreams

end Connection

/-- `process_tcp_packet`. -/
def HTTP2Decoder.processTcpPacket (d : HTTP2Decoder D) (packet : TcpPacket) :
    List StreamDict × HTTP2Decoder D :=
  if packet.payload = [] then ([], d)
  else
    let connTuple := packet.canonicalConnTuple
    match d.connections connTuple with
    | none => match find http2Preface packet.payload with
      | some prefaceOffset =>
        let connection := Connection.new decoder packet.src packet.dst
        let (completed, connection) := connection.arrive hpack hyperframe true
          (packet.payload.drop (prefaceOffset + http2Preface.length))
        (completed, { connections := Function.update d.connections connTuple (some connection) })
      | none => ([], d)
    | some connection =>
      let isPacketFromConnectionClient : Bool := packet.src = connection.clientAddr
      let (completed, connection) :=
        connection.arrive hpack hyperframe isPacketFromConnectionClient packet.payload
      (completed, { connections := Function.update d.connections connTuple (some connection) })

/-! ## The machine of a connection

The decoder is a table of connections. A packet is handled by the connection under its tuple, and by
that alone, so the decoder is as many machines as there are tuples. -/

/-- What a packet does to the connection it belongs to, if there is one. -/
def processOwn (connection : Option (Connection D)) (packet : TcpPacket) :
    List StreamDict × Option (Connection D) :=
  if packet.payload = [] then ([], connection)
  else match connection with
    | none => match find http2Preface packet.payload with
      | some prefaceOffset =>
        Prod.map id some ((Connection.new decoder packet.src packet.dst).arrive hpack hyperframe true
          (packet.payload.drop (prefaceOffset + http2Preface.length)))
      | none => ([], none)
    | some connection =>
      Prod.map id some
        (connection.arrive hpack hyperframe (packet.src = connection.clientAddr) packet.payload)

/-- Connections, under their tuples. -/
def machines : Store.Machines ConnTuple TcpPacket (Option (Connection D))
    (List StreamDict) where
  key := TcpPacket.canonicalConnTuple
  step := processOwn hpack hyperframe decoder

/-- **Connections are apart.** A packet is for the machine under its tuple. What is updated is the
one entry, also where a packet changes nothing and the source does not write the table. -/
theorem processTcpPacket_eq (d : HTTP2Decoder D) (packet : TcpPacket) :
    d.processTcpPacket hpack hyperframe decoder packet =
      Prod.map id HTTP2Decoder.mk
        ((machines hpack hyperframe decoder).apply d.connections packet) := by
  have hself : Function.update d.connections packet.canonicalConnTuple
      (d.connections packet.canonicalConnTuple) = d.connections := Function.update_eq_self _ _
  unfold HTTP2Decoder.processTcpPacket Store.Machines.apply
  dsimp only [machines, Prod.map]
  unfold processOwn
  -- no payload; then no connection, with or without the preface; then a connection
  split
  · rw [hself]
    rfl
  · cases hc : d.connections packet.canonicalConnTuple with
    | none =>
      rw [hc] at hself
      cases find http2Preface packet.payload with
      | none => exact congrArg (fun c => (_, HTTP2Decoder.mk c)) hself.symm
      | some prefaceOffset => rfl
    | some connection => rfl

end UnifyAir.Sniffer
