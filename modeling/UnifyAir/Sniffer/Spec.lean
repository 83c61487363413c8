import Mathlib.Logic.Function.Basic
import UnifyAir.Control.Raising
import UnifyAir.Wire.Http2

/-!
# UnifyAir — the HTTP/2 decoder of the integration tests

`tests/integration/sniffer/h2_decoder`, in Python. A connection has a buffer for each direction;
what arrives is put behind the buffer of its direction, and `parse_http2_frames_from_buffer` takes
complete frames off its front.

A method is a computation in `Py`: it changes a connection, and may raise. What it changed before
that stays. The fields of a connection that frames change are its `Session`; its buffers are read
and written by the parser alone. `hpack` and `hyperframe` are packages: `Hpack` is what a decoder of
header blocks does, and `Hyperframe` what the constructors of frames raise.

Logging is left out.
-/

namespace UnifyAir.Sniffer

open Http2 (value24 value32)

abbrev Bytes := List UInt8

/-- An `Exception`, by its text. -/
abbrev PyError := String

/-! ## Texts

Header names and values come as texts or as bytes. Bytes are read as UTF-8, with `errors='replace'`,
so that reading them cannot raise. -/

/-- What a lead octet of UTF-8 asks for: a second octet from `low` to `high`, and as many octets
behind the first as `more` says. The bits that have been read are `value`. -/
structure Utf8Pending where
  value : Nat
  low : UInt8
  high : UInt8
  more : Nat

def utf8Lead (b : UInt8) : Option Utf8Pending :=
  if 0xC2 ≤ b ∧ b ≤ 0xDF then some ⟨b.toNat % 32, 0x80, 0xBF, 1⟩
  else if b = 0xE0 then some ⟨b.toNat % 16, 0xA0, 0xBF, 2⟩
  else if b = 0xED then some ⟨b.toNat % 16, 0x80, 0x9F, 2⟩
  else if 0xE1 ≤ b ∧ b ≤ 0xEF then some ⟨b.toNat % 16, 0x80, 0xBF, 2⟩
  else if b = 0xF0 then some ⟨b.toNat % 8, 0x90, 0xBF, 3⟩
  else if b = 0xF4 then some ⟨b.toNat % 8, 0x80, 0x8F, 3⟩
  else if 0xF1 ≤ b ∧ b ≤ 0xF3 then some ⟨b.toNat % 8, 0x80, 0xBF, 3⟩
  else none

/-- U+FFFD. -/
def replacement : Char := Char.ofNat 0xFFFD

/-- An octet where a character begins. -/
def utf8First (b : UInt8) : List Char × Option Utf8Pending :=
  if b < 0x80 then ([Char.ofNat b.toNat], none)
  else match utf8Lead b with
    | some pending => ([], some pending)
    | none => ([replacement], none)

/-- `bytes.decode('utf-8', errors='replace')`, behind the octets of an unfinished character. What
does not go on as it should is replaced, and the octet that does not fit is read anew. -/
def decodeUtf8 : Option Utf8Pending → Bytes → List Char
  | none, [] => []
  | some _, [] => [replacement]
  | none, b :: rest => (utf8First b).1 ++ decodeUtf8 (utf8First b).2 rest
  | some pending, b :: rest =>
    if pending.low ≤ b ∧ b ≤ pending.high then
      let value := 64 * pending.value + b.toNat % 64
      if pending.more = 1 then Char.ofNat value :: decodeUtf8 none rest
      else decodeUtf8 (some ⟨value, 0x80, 0xBF, pending.more - 1⟩) rest
    else replacement :: (utf8First b).1 ++ decodeUtf8 (utf8First b).2 rest

example : decodeUtf8 none [0x61, 0xC3, 0xA9, 0xE2, 0x82, 0x62, 0xFF] =
    ['a', 'é', replacement, 'b', replacement] := by decide

/-- A name or a value of a header, as `hpack` gives it. -/
inductive HeaderText where
  | str (text : List Char)
  | bytes (octets : Bytes)
  deriving DecidableEq, Repr

def HeaderText.text : HeaderText → List Char
  | str text => text
  | bytes octets => decodeUtf8 none octets

/-! ## Packages

What `hpack` and `hyperframe` do is not in the repository. They are parameters, and what a result
needs of them it says. -/

/-- `hpack.Decoder`; `D` is what it remembers of the blocks so far. -/
structure Hpack (D : Type) where
  /-- `decode`, with the state it leaves also where it raises. -/
  decode : D → Bytes → Except PyError (List (HeaderText × HeaderText)) × D
  /-- The setter of `header_table_size`. -/
  setHeaderTableSize : D → Nat → D

/-- The classes of `hyperframe.frame`. -/
inductive FrameClass where
  | dataFrame
  | headersFrame
  | priorityFrame
  | rstStreamFrame
  | settingsFrame
  | pushPromiseFrame
  | pingFrame
  | goAwayFrame
  | windowUpdateFrame
  deriving DecidableEq, Repr

/-- `hyperframe`: what a constructor raises for a stream id. -/
structure Hyperframe where
  construct : FrameClass → Nat → Except PyError Unit

/-! ## Connections

A stream, the settings, and the connection that has them. All fields that are read by a method are
here. -/

abbrev Headers := List (List Char × List Char)

/-- `HTTP2Stream`. -/
structure HTTP2Stream where
  streamId : Nat
  clientHeaders : Headers
  clientData : Bytes
  clientTrailers : Headers
  clientComplete : Bool
  serverHeaders : Headers
  serverData : Bytes
  serverTrailers : Headers
  serverComplete : Bool
  deriving DecidableEq, Repr

namespace HTTP2Stream

/-- `HTTP2Stream.__init__`. -/
def new (streamId : Nat) : HTTP2Stream where
  streamId := streamId
  clientHeaders := []
  clientData := []
  clientTrailers := []
  clientComplete := false
  serverHeaders := []
  serverData := []
  serverTrailers := []
  serverComplete := false

/-- `add_headers`. -/
def addHeaders (stream : HTTP2Stream) (headers : Headers) (fromClient endStream : Bool) :
    HTTP2Stream :=
  if fromClient then
    let stream :=
      if stream.clientHeaders = [] then { stream with clientHeaders := headers }
      else { stream with clientTrailers := headers }
    if endStream then { stream with clientComplete := true } else stream
  else
    let stream :=
      if stream.serverHeaders = [] then { stream with serverHeaders := headers }
      else { stream with serverTrailers := headers }
    if endStream then { stream with serverComplete := true } else stream

/-- `add_data`. -/
def addData (stream : HTTP2Stream) (data : Bytes) (fromClient endStream : Bool) : HTTP2Stream :=
  if fromClient then
    let stream := { stream with clientData := stream.clientData ++ data }
    if endStream then { stream with clientComplete := true } else stream
  else
    let stream := { stream with serverData := stream.serverData ++ data }
    if endStream then { stream with serverComplete := true } else stream

end HTTP2Stream

/-- `settings` of a connection. -/
structure Settings where
  headerTableSize : Nat := 4096
  enablePush : Nat := 1
  maxConcurrentStreams : Option Nat := none
  initialWindowSize : Nat := 65535
  maxFrameSize : Nat := 16384
  maxHeaderListSize : Option Nat := none
  deriving DecidableEq, Repr

/-- `HTTP2Connection` without its buffers. -/
structure Session (D : Type) where
  clientHpackDecoder : D
  serverHpackDecoder : D
  streams : Nat → Option HTTP2Stream
  settings : Settings

/-- `HTTP2Connection`. -/
structure HTTP2Connection (D : Type) extends Session D where
  clientBuffer : Bytes
  serverBuffer : Bytes

/-- `HTTP2Connection.__init__`, with a new `Decoder` for each direction. -/
def HTTP2Connection.new {D : Type} (decoder : D) : HTTP2Connection D where
  clientHpackDecoder := decoder
  serverHpackDecoder := decoder
  streams := fun _ => none
  settings := {}
  clientBuffer := []
  serverBuffer := []

/-! ## Computations

`Py` is state under exceptions, in this order: when a method raises, what it had changed by then
stays changed. That is what Python does. -/

/-- What a method does: it changes the session, and returns or raises. How it ends, and the session
it leaves, is its `exec`. -/
abbrev Py (D : Type) := ExceptT PyError (StateM (Session D))

variable {D : Type}

/-- `b[start:stop]`. -/
def slice (b : Bytes) (start stop : Nat) : Bytes := (b.drop start).take (stop - start)

/-- `b[i]`. -/
def getByte (b : Bytes) (i : Nat) : Py D UInt8 :=
  match b[i]? with
  | some byte => pure byte
  | none => throw "index out of range"

/-- `struct.unpack('>I', b)[0]`. -/
def unpackI : Bytes → Py D Nat
  | [o₀, o₁, o₂, o₃] => pure (value32 o₀ o₁ o₂ o₃)
  | _ => throw "unpack requires a buffer of 4 bytes"

/-- `struct.unpack('>H', b)[0]`. -/
def unpackH : Bytes → Py D Nat
  | [o₀, o₁] => pure (256 * o₀.toNat + o₁.toNat)
  | _ => throw "unpack requires a buffer of 2 bytes"

/-- What is done `if stream_id not in connection.streams`: a new one is put there. -/
def ensureStream (streamId : Nat) : Py D Unit :=
  modify fun s => match s.streams streamId with
    | some _ => s
    | none =>
      { s with streams := Function.update s.streams streamId (some (.new streamId)) }

/-- A method of `connection.streams[stream_id]`. -/
def modifyStream (streamId : Nat) (f : HTTP2Stream → HTTP2Stream) : Py D Unit :=
  modify fun s =>
    { s with streams := Function.update s.streams streamId ((s.streams streamId).map f) }

variable (hpack : Hpack D)

/-- `decoder.decode`, of the decoder of a direction. -/
def hpackDecode (headersData : Bytes) (fromClient : Bool) :
    Py D (List (HeaderText × HeaderText)) := do
  let s ← get
  if fromClient then
    let (res, decoder) := hpack.decode s.clientHpackDecoder headersData
    set { s with clientHpackDecoder := decoder }
    MonadExcept.ofExcept res
  else
    let (res, decoder) := hpack.decode s.serverHpackDecoder headersData
    set { s with serverHpackDecoder := decoder }
    MonadExcept.ofExcept res

/-- `decode_headers`. -/
def decodeHeaders (headersData : Bytes) (fromClient : Bool) : Py D Headers :=
  try
    let headers ← hpackDecode hpack headersData fromClient
    pure (headers.map fun (name, value) => (name.text, value.text))
  catch _ => pure []

/-! ## Frames

The methods that are called with a frame, from `_create_hyperframe_object` to `handle_frame`. -/

/-- A frame that `_create_hyperframe_object` makes; it is a `GenericFrame` if it has no class. -/
structure Frame where
  frameClass : Option FrameClass
  flags : UInt8
  body : Bytes
  deriving DecidableEq, Repr

/-- The class that is made for a frame type. -/
def frameClass (frameType : UInt8) : Option FrameClass :=
  match frameType.toNat with
  | 0x0 => some .dataFrame
  | 0x1 => some .headersFrame
  | 0x4 => some .settingsFrame
  | 0x8 => some .windowUpdateFrame
  | 0x5 => some .pushPromiseFrame
  | 0x6 => some .pingFrame
  | 0x7 => some .goAwayFrame
  | 0x3 => some .rstStreamFrame
  | 0x2 => some .priorityFrame
  | _ => none

/-- `_create_hyperframe_object`, with `None` where the constructor raises. -/
def createHyperframeObject (hyperframe : Hyperframe) (frameType flags : UInt8) (streamId : Nat)
    (body : Bytes) : Option Frame :=
  match frameClass frameType with
  | none => some ⟨none, flags, body⟩
  | some cls => match hyperframe.construct cls streamId with
    | .ok () => some ⟨some cls, flags, body⟩
    | .error _ => none

/-- One setting of a SETTINGS frame. -/
def applySetting (fromClient : Bool) (settingId value : Nat) : Py D Unit :=
  modify fun s => match settingId with
    | 0x1 =>
      let s :=
        if fromClient then
          { s with clientHpackDecoder := hpack.setHeaderTableSize s.clientHpackDecoder value }
        else { s with serverHpackDecoder := hpack.setHeaderTableSize s.serverHpackDecoder value }
      { s with settings := { s.settings with headerTableSize := value } }
    | 0x2 => { s with settings := { s.settings with enablePush := value } }
    | 0x3 => { s with settings := { s.settings with maxConcurrentStreams := some value } }
    | 0x4 => { s with settings := { s.settings with initialWindowSize := value } }
    | 0x5 => { s with settings := { s.settings with maxFrameSize := value } }
    | 0x6 => { s with settings := { s.settings with maxHeaderListSize := some value } }
    | _ => s

/-- The pair of an id and a value at an index of a SETTINGS frame's body. -/
def unpackSetting (body : Bytes) (i : Nat) : Py D (Nat × Nat) := do
  let settingId ← unpackH (slice body i (i + 2))
  let value ← unpackI (slice body (i + 2) (i + 6))
  return (settingId, value)

/-- `_handle_connection_frame`. -/
def handleConnectionFrame (frame : Frame) (fromClient : Bool) : Py D Unit :=
  match frame.frameClass with
  | some .settingsFrame =>
    try
      let settingsList ←
        (List.range' 0 ((frame.body.length + 5) / 6) 6).mapM (unpackSetting frame.body)
      settingsList.forM fun (settingId, value) => applySetting hpack fromClient settingId value
    catch _ => pure ()
  | some .goAwayFrame => do
    let _errorCode ← (if frame.body.length ≥ 8 then unpackI (slice frame.body 4 8) else pure 0)
  | _ => pure ()

/-- The part of `handle_frame` inside `try`. -/
def tryHandleFrame (frame : Frame) (streamId : Nat) (fromClient : Bool) : Py D Unit := do
  let endStream : Bool := frame.flags &&& 0x1 ≠ 0
  match frame.frameClass with
  | some .headersFrame =>
    let headers ← decodeHeaders hpack frame.body fromClient
    modifyStream streamId (·.addHeaders headers fromClient endStream)
  | some .dataFrame => modifyStream streamId (·.addData frame.body fromClient endStream)
  | some .pushPromiseFrame =>
    let promisedStreamId := (← unpackI (slice frame.body 0 4)) &&& 0x7FFFFFFF
    -- whichever side sends it, the block goes to the decoder of the server
    let headers ← decodeHeaders hpack (frame.body.drop 4) false
    ensureStream promisedStreamId
    modifyStream promisedStreamId (·.addHeaders headers true false)
  | some .rstStreamFrame =>
    let _errorCode ← unpackI frame.body
    modifyStream streamId fun stream =>
      if fromClient then { stream with clientComplete := true }
      else { stream with serverComplete := true }
  | _ => return ()

/-- `handle_frame`. -/
def handleFrame (frame : Frame) (streamId : Nat) (fromClient : Bool) : Py D Unit :=
  try tryHandleFrame hpack frame streamId fromClient catch _ => pure ()

/-! ## Parsing

The loop over the buffer. An exception in it makes it look for the next offset where a frame could
be; `find_next_frame` is here for that, though it turns out that the loop never needs it. -/

variable (hyperframe : Hyperframe)

/-- What is done with a complete frame. -/
def dispatch (frameType flags : UInt8) (streamId : Nat) (frameBody : Bytes) (fromClient : Bool) :
    Py D Unit :=
  match createHyperframeObject hyperframe frameType flags streamId frameBody with
  | none => return ()
  | some frame =>
    if streamId > 0 then do
      ensureStream streamId
      handleFrame hpack frame streamId fromClient
    else handleConnectionFrame hpack frame fromClient

/-- The part of the loop inside `try`: how long the body of the frame at the offset is, or nothing
at the `break`. -/
def parseFrame (currentBuffer : Bytes) (offset : Nat) (fromClient : Bool) :
    Py D (Option Nat) := do
  let frameHeader := slice currentBuffer offset (offset + 9)
  let length ← unpackI (0x00 :: slice frameHeader 0 3)
  let frameType ← getByte frameHeader 3
  let flags ← getByte frameHeader 4
  let streamId := (← unpackI (slice frameHeader 5 9)) &&& 0x7FFFFFFF
  if offset + 9 + length > currentBuffer.length then
    return none
  else
    let frameBody := slice currentBuffer (offset + 9) (offset + 9 + length)
    dispatch hpack hyperframe frameType flags streamId frameBody fromClient
    return some length

/-- `find_next_frame`; in the range of its loop nothing raises. -/
def findNextFrame (data : Bytes) (startOffset : Nat) : Option Nat :=
  (List.range' startOffset (data.length - 9 - startOffset)).find? fun i =>
    match slice data i (i + 3), data[i + 3]? with
    | [l₀, l₁, l₂], some frameType =>
      let length := value24 l₀ l₁ l₂
      length ≤ 16777215 && frameType ≤ 0x9 && i + 9 + length ≤ data.length
    | _, _ => false

/-- An offset that is found is a later one, inside the data. The loop ends because of this. -/
theorem findNextFrame_mem {data : Bytes} {startOffset i : Nat}
    (h : findNextFrame data startOffset = some i) : startOffset ≤ i ∧ i < data.length := by
  have hmem := List.mem_of_find?_eq_some h
  rw [List.mem_range'_1] at hmem
  omega

/-- The loop of `parse_http2_frames_from_buffer`: where it stops. -/
def parseFrom (currentBuffer : Bytes) (fromClient : Bool) (offset : Nat) (s : Session D) :
    Nat × Session D :=
  if _h : offset + 9 ≤ currentBuffer.length then
    match (parseFrame hpack hyperframe currentBuffer offset fromClient).exec s with
    | (.ok none, s) => (offset, s)
    | (.ok (some length), s) => parseFrom currentBuffer fromClient (offset + 9 + length) s
    -- an exception: go on where the next frame seems to be, or give up the buffer
    | (.error _, s) => match _hnext : findNextFrame currentBuffer (offset + 1) with
      | some recoveryOffset => parseFrom currentBuffer fromClient recoveryOffset s
      | none => (currentBuffer.length, s)
  else (offset, s)
termination_by currentBuffer.length - offset
decreasing_by
  · omega
  · have := findNextFrame_mem _hnext
    omega

namespace HTTP2Connection

/-- The buffer of a direction. -/
def buffer (c : HTTP2Connection D) (fromClient : Bool) : Bytes :=
  if fromClient then c.clientBuffer else c.serverBuffer

def setBuffer (c : HTTP2Connection D) (fromClient : Bool) (b : Bytes) : HTTP2Connection D :=
  if fromClient then { c with clientBuffer := b } else { c with serverBuffer := b }

/-- `parse_http2_frames_from_buffer`. -/
def parseHttp2FramesFromBuffer (c : HTTP2Connection D) (fromClient : Bool) : HTTP2Connection D :=
  let currentBuffer := c.buffer fromClient
  let (offset, session) := parseFrom hpack hyperframe currentBuffer fromClient 0 c.toSession
  let c := { c with toSession := session }
  if offset > 0 then c.setBuffer fromClient (currentBuffer.drop offset) else c

/-- What `process_tcp_packet` does with the payload of a packet of the connection. -/
def receive (fromClient : Bool) (c : HTTP2Connection D) (payload : Bytes) : HTTP2Connection D :=
  -- what arrives is behind what was left
  (c.setBuffer fromClient (c.buffer fromClient ++ payload)).parseHttp2FramesFromBuffer hpack
    hyperframe fromClient

end HTTP2Connection

end UnifyAir.Sniffer
