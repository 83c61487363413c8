import UnifyAir.Sniffer.Spec

/-!
# UnifyAir — the parser does not see how its bytes were cut into packets

The loop of `parse_http2_frames_from_buffer` is a `Wire.Format.feed` over HTTP/2 frames. Nothing
that is done with a frame raises: `decode_headers`, `handle_frame` and the SETTINGS case of
`_handle_connection_frame` have a `try` of their own, and GOAWAY looks at the length first. So the
loop never looks for a frame to go on with, whatever the bytes are.

* **`receive_eq_feed`** — the parser refines the reader of frames.
* **`receive_segmented`** — two packets are as good as one, for any state, direction and bytes.
* **`foldl_receive`** — any number of packets is.
-/

namespace UnifyAir.Sniffer

open Wire
open Raising

variable {D : Type}

/-! ## Handling a frame

What may raise in the handling of a frame is inside a `try`, but for the error code of GOAWAY, whose
four bytes are there. So handling a frame always returns, and is a function on sessions. -/

variable (hpack : Hpack D) (hyperframe : Hyperframe)

theorem returns_handleFrame (frame : Frame) (streamId : Nat) (fromClient : Bool) :
    Returns (handleFrame hpack frame streamId fromClient) :=
  returns_tryCatch _ fun _ => returns_pure ()

/-- Four bytes that are inside the buffer are unpacked. This is the error code of a GOAWAY frame,
where there is one. -/
theorem returns_unpackI_slice {b : Bytes} {i : Nat} (h : i + 4 ≤ b.length) :
    Returns (unpackI (slice b i (i + 4)) : Py D Nat) := by
  have hlen : (slice b i (i + 4)).length = 4 := by
    rw [slice, List.length_take, List.length_drop]
    omega
  match slice b i (i + 4), hlen with
  | [o₀, o₁, o₂, o₃], _ => exact returns_pure (Http2.value32 o₀ o₁ o₂ o₃)

/-- SETTINGS have a `try` of their own, GOAWAY looks at its length before it unpacks, and the others
do nothing. -/
theorem returns_handleConnectionFrame (frame : Frame) (fromClient : Bool) :
    Returns (handleConnectionFrame hpack frame fromClient) := by
  unfold handleConnectionFrame
  split
  · exact returns_tryCatch _ fun _ => returns_pure ()
  · refine Returns.bind ?_ fun _ => returns_pure ()
    split
    · exact returns_unpackI_slice (by omega)
    · exact returns_pure 0
  · exact returns_pure ()

/-- A complete frame is handled without an exception, whatever is in it. -/
theorem returns_dispatch (frameType flags : UInt8) (streamId : Nat) (frameBody : Bytes)
    (fromClient : Bool) :
    Returns (dispatch hpack hyperframe frameType flags streamId frameBody fromClient) := by
  unfold dispatch
  -- no object was made, or one with a stream, or one of the connection
  split
  · exact returns_pure ()
  · split
    · exact (returns_modify _).bind fun _ => returns_handleFrame hpack _ _ _
    · exact returns_handleConnectionFrame hpack _ _

/-- What a frame on the wire does to the session. -/
def handleWire (fromClient : Bool) (s : Session D) (f : Http2.Frame) : Session D :=
  ((dispatch hpack hyperframe f.type f.flags f.streamId f.payload fromClient).exec s).2

/-- What is run for a frame ends, and leaves the session that `handleWire` says. -/
theorem exec_dispatch (f : Http2.Frame) (fromClient : Bool) (s : Session D) :
    (dispatch hpack hyperframe f.type f.flags f.streamId f.payload fromClient).exec s =
      (.ok (), handleWire hpack hyperframe fromClient s f) := by
  obtain ⟨_, s', hexec⟩ :=
    returns_dispatch hpack hyperframe f.type f.flags f.streamId f.payload fromClient s
  rw [handleWire, hexec]

/-! ## Parsing a frame

The header is read by slices of the buffer and `struct.unpack`. Beside it stands `Http2.Frame.cut`,
which reads the same nine bytes at once; they agree on what a frame is and on when one is complete.
-/

theorem exists_header {b : Bytes} (h : 9 ≤ b.length) :
    ∃ l₀ l₁ l₂ type flags s₀ s₁ s₂ s₃ rest,
      b = l₀ :: l₁ :: l₂ :: type :: flags :: s₀ :: s₁ :: s₂ :: s₃ :: rest := by
  match b, h with
  | l₀ :: l₁ :: l₂ :: type :: flags :: s₀ :: s₁ :: s₂ :: s₃ :: rest, _ =>
    -- the match has only the case with nine
    exact ⟨l₀, l₁, l₂, type, flags, s₀, s₁, s₂, s₃, rest, rfl⟩

variable {buffer : Bytes} {offset : Nat}

/-- What is left to do with the header read. The slices of the source are the fields of the header,
and what is behind them is the body. -/
theorem exec_parseFrame {l₀ l₁ l₂ type flags s₀ s₁ s₂ s₃ : UInt8} {rest : Bytes}
    (h : buffer.drop offset = l₀ :: l₁ :: l₂ :: type :: flags :: s₀ :: s₁ :: s₂ :: s₃ :: rest)
    (fromClient : Bool) (s : Session D) :
    (parseFrame hpack hyperframe buffer offset fromClient).exec s =
      ExceptT.exec (if offset + 9 + Http2.value24 l₀ l₁ l₂ > buffer.length then pure none else do
        dispatch hpack hyperframe type flags (Http2.value32 s₀ s₁ s₂ s₃ % 2 ^ 31)
          (rest.take (Http2.value24 l₀ l₁ l₂)) fromClient
        pure (some (Http2.value24 l₀ l₁ l₂))) s := by
  have hheader : slice buffer offset (offset + 9) =
      [l₀, l₁, l₂, type, flags, s₀, s₁, s₂, s₃] := by
    rw [slice, h, Nat.add_sub_cancel_left]
    rfl
  have hbody (n : Nat) : slice buffer (offset + 9) (offset + 9 + n) = rest.take n := by
    rw [slice, Nat.add_sub_cancel_left, ← List.drop_drop, h]
    rfl
  have hlength : Http2.value32 0x00 l₀ l₁ l₂ = Http2.value24 l₀ l₁ l₂ := Nat.zero_add _
  have hid : Http2.value32 s₀ s₁ s₂ s₃ &&& 0x7FFFFFFF = Http2.value32 s₀ s₁ s₂ s₃ % 2 ^ 31 :=
    Nat.and_two_pow_sub_one_eq_mod _ 31
  unfold parseFrame
  rw [hheader, ← hlength, ← hid, ← hbody]
  -- the nine bytes are there, one field after the other
  show ExceptT.exec (unpackI [0x00, l₀, l₁, l₂] >>= _) s = _
  rw [ExceptT.exec_bind]
  rfl

/-- **One turn of the loop.** It does not raise; it stops where no complete frame is in front, and
else handles the frame and says how long it was. -/
theorem parseFrame_eq (h : offset + 9 ≤ buffer.length) (fromClient : Bool) (s : Session D) :
    (parseFrame hpack hyperframe buffer offset fromClient).exec s =
      match Http2.Frame.cut (buffer.drop offset) with
      | none => (.ok none, s)
      | some (f, _) =>
        (.ok (some f.payload.length), handleWire hpack hyperframe fromClient s f) := by
  have hdrop : (buffer.drop offset).length = buffer.length - offset := List.length_drop
  obtain ⟨l₀, l₁, l₂, type, flags, s₀, s₁, s₂, s₃, rest, heq⟩ :=
    exists_header (b := buffer.drop offset) (by omega)
  have hlen : rest.length + offset + 9 = buffer.length := by
    rw [heq] at hdrop
    simp only [List.length_cons] at hdrop
    omega
  rw [exec_parseFrame hpack hyperframe heq, heq]
  rcases Nat.lt_or_ge rest.length (Http2.value24 l₀ l₁ l₂) with hlt | hle
  · rw [Http2.Frame.cut_of_lt _ _ _ _ _ _ _ _ _ hlt, if_pos (by omega)]
    rfl
  · obtain ⟨hlt, hcut⟩ := Http2.Frame.cut_of_le l₀ l₁ l₂ type flags s₀ s₁ s₂ s₃ hle
    have hexec : (dispatch hpack hyperframe type flags (Http2.value32 s₀ s₁ s₂ s₃ % 2 ^ 31)
        (rest.take (Http2.value24 l₀ l₁ l₂)) fromClient).exec s = _ :=
      exec_dispatch hpack hyperframe ⟨type, flags, (s₀, s₁, s₂, s₃), _, hlt⟩ fromClient s
    rw [hcut, if_neg (by omega), ExceptT.exec_bind, hexec]
    show (Except.ok (some (Http2.value24 l₀ l₁ l₂)), _) = (Except.ok (some (rest.take _).length), _)
    rw [List.length_take_of_le hle]

/-! ## Parsing a buffer

The loop stands at an offset of a buffer; the reader of frames has a rest. With what is before the
offset kept as `pre`, the loop is the reader, by an induction on the frames of the rest. -/

variable (fromClient : Bool) (pre stream : Bytes) (s : Session D)

/-- Without a complete frame the loop stops where it is. It may stop for want of a header or for
want of a body. -/
theorem parseFrom_of_none (h : Http2.Frame.cut stream = none) :
    parseFrom hpack hyperframe (pre ++ stream) fromClient pre.length s = (pre.length, s) := by
  rw [parseFrom]
  split
  · next hheader =>
    rw [parseFrame_eq hpack hyperframe hheader, List.drop_left, h]
  · rfl

/-- With one it handles the frame, and goes on behind it. -/
theorem parseFrom_of_some {f : Http2.Frame} {rest : Bytes}
    (h : Http2.Frame.cut stream = some (f, rest)) :
    parseFrom hpack hyperframe (pre ++ stream) fromClient pre.length s =
      parseFrom hpack hyperframe (pre ++ f.octets ++ rest) fromClient (pre ++ f.octets).length
        (handleWire hpack hyperframe fromClient s f) := by
  have hstream : pre ++ stream = pre ++ f.octets ++ rest := by
    rw [Http2.Frame.cut_eq_some_iff.mp h, List.append_assoc]
  have hoffset : (pre ++ f.octets).length = pre.length + 9 + f.payload.length := by
    rw [List.length_append, f.length_octets, Nat.add_assoc]
  have hheader : pre.length + 9 ≤ (pre ++ stream).length := by
    rw [hstream, List.length_append, hoffset]
    omega
  rw [parseFrom, dif_pos hheader, parseFrame_eq hpack hyperframe hheader, List.drop_left, h,
    hstream, hoffset]

/-- **The loop.** It handles the complete frames in order, and stops where they end. -/
theorem parseFrom_eq :
    parseFrom hpack hyperframe (pre ++ stream) fromClient pre.length s =
      ((pre ++ (Http2.Frame.format.units stream).1.flatMap Http2.Frame.octets).length,
        (Http2.Frame.format.units stream).1.foldl (handleWire hpack hyperframe fromClient) s) := by
  -- along the frames that are cut off the rest
  induction stream using Format.units.induct Http2.Frame.format generalizing pre s with
  | case1 stream h =>
    rw [parseFrom_of_none hpack hyperframe fromClient pre stream s h, Format.units_of_none h,
      List.flatMap_nil, List.append_nil, List.foldl_nil]
  | case2 stream f rest h _ ih =>
    rw [parseFrom_of_some hpack hyperframe fromClient pre stream s h, ih, Format.units_of_some h,
      List.flatMap_cons, List.append_assoc, List.foldl_cons]

/-- What is behind the frames that were handled is the rest of the reader. -/
theorem drop_frames :
    stream.drop ((Http2.Frame.format.units stream).1.flatMap Http2.Frame.octets).length =
      (Http2.Frame.format.units stream).2 := by
  have hsplit := Http2.Frame.format.symbols_units stream
  generalize (Http2.Frame.format.units stream).2 = rest at hsplit ⊢
  conv => enter [1, 2]; rw [← hsplit]
  exact List.drop_left

namespace HTTP2Connection

variable (c : HTTP2Connection D)

/-- The session and the buffer of a direction. -/
def reader : Session D × Bytes := (c.toSession, c.buffer fromClient)

def setReader (r : Session D × Bytes) : HTTP2Connection D :=
  { c with toSession := r.1 }.setBuffer fromClient r.2

theorem reader_setReader (r : Session D × Bytes) :
    (c.setReader fromClient r).reader fromClient = r := by
  cases fromClient <;> rfl

theorem setReader_setReader (r r' : Session D × Bytes) :
    (c.setReader fromClient r).setReader fromClient r' = c.setReader fromClient r' := by
  cases fromClient <;> rfl

theorem buffer_setReader_not (r : Session D × Bytes) :
    (c.setReader fromClient r).buffer (!fromClient) = c.buffer (!fromClient) := by
  cases fromClient <;> rfl

/-- Parsing a buffer handles its frames, and leaves its rest. If no frame was complete the buffer is
not written, which comes to the same. -/
theorem parse_setBuffer :
    (c.setBuffer fromClient stream).parseHttp2FramesFromBuffer hpack hyperframe fromClient =
      c.setReader fromClient
        ((Http2.Frame.format.units stream).1.foldl (handleWire hpack hyperframe fromClient)
          c.toSession, (Http2.Frame.format.units stream).2) := by
  have hbuffer : (c.setBuffer fromClient stream).buffer fromClient = stream := by
    cases fromClient <;> rfl
  have hsession : (c.setBuffer fromClient stream).toSession = c.toSession := by
    cases fromClient <;> rfl
  have hparse := parseFrom_eq hpack hyperframe fromClient [] stream c.toSession
  simp only [List.nil_append, List.length_nil] at hparse
  have hdrop := drop_frames stream
  unfold parseHttp2FramesFromBuffer
  simp only [hbuffer, hsession, hparse]
  split
  · rw [hdrop]
    cases fromClient <;> rfl
  · -- nothing was consumed, so the rest is the whole
    next hoffset =>
    rw [Nat.eq_zero_of_not_pos hoffset, List.drop_zero] at hdrop
    rw [← hdrop]
    cases fromClient <;> rfl

/-- **The parser refines the reader of frames.** A packet is put behind the buffer and parsed, and
that is one `feed` of the reader. All that follows about segments is a fact on readers. -/
theorem receive_eq_feed (payload : Bytes) :
    c.receive hpack hyperframe fromClient payload =
      c.setReader fromClient (Http2.Frame.format.feed (handleWire hpack hyperframe fromClient)
        (c.reader fromClient) payload) :=
  parse_setBuffer hpack hyperframe fromClient (c.buffer fromClient ++ payload) c

/-- What a packet does: these frames are complete with it. -/
structure Consumed (payload : Bytes) (frames : List Http2.Frame) : Prop where
  /-- Every byte is in one of them, or waits in the buffer. -/
  octets : c.buffer fromClient ++ payload = frames.flatMap Http2.Frame.octets ++
    (c.receive hpack hyperframe fromClient payload).buffer fromClient
  waiting : Http2.Frame.cut ((c.receive hpack hyperframe fromClient payload).buffer fromClient) =
    none
  session : (c.receive hpack hyperframe fromClient payload).toSession =
    frames.foldl (handleWire hpack hyperframe fromClient) c.toSession
  other : (c.receive hpack hyperframe fromClient payload).buffer (!fromClient) =
    c.buffer (!fromClient)

/-- What a packet does, for any packet and any state: the frames are those of the buffer with the
packet behind it. -/
theorem receive_consumed (payload : Bytes) :
    c.Consumed hpack hyperframe fromClient payload
      (Http2.Frame.format.units (c.buffer fromClient ++ payload)).1 := by
  have hreader := congrArg (reader fromClient)
    (receive_eq_feed hpack hyperframe fromClient c payload)
  rw [reader_setReader] at hreader
  have hbuffer : (c.receive hpack hyperframe fromClient payload).buffer fromClient =
    (Http2.Frame.format.units (c.buffer fromClient ++ payload)).2 := congrArg Prod.snd hreader
  constructor
  · rw [hbuffer]
    exact (Http2.Frame.format.symbols_units _).symm
  · rw [hbuffer]
    exact Http2.Frame.format.cut_units _
  · exact congrArg Prod.fst hreader
  · rw [receive_eq_feed, buffer_setReader_not]

/-- Two packets, instead of one with the bytes of both. -/
structure Segmented (b₁ b₂ : Bytes) : Prop where
  same : (c.receive hpack hyperframe fromClient b₁).receive hpack hyperframe fromClient b₂ =
    c.receive hpack hyperframe fromClient (b₁ ++ b₂)
  consumed : ∀ payload, ∃ frames, c.Consumed hpack hyperframe fromClient payload frames
  /-- Where the loop looks for a frame, nothing raises, so that it need not find another. -/
  noResync : ∀ currentBuffer offset s err, offset + 9 ≤ currentBuffer.length →
    ((parseFrame hpack hyperframe currentBuffer offset fromClient).exec s).1 ≠ .error err

/-- **Segmentation does not matter.** Two packets leave the connection that one packet with the
bytes of both leaves. In between no byte is lost, and the recovery of the loop is never used. -/
theorem receive_segmented (b₁ b₂ : Bytes) :
    c.Segmented hpack hyperframe fromClient b₁ b₂ := by
  constructor
  · rw [receive_eq_feed, receive_eq_feed, receive_eq_feed, reader_setReader, setReader_setReader,
      Format.feed_feed]
  · intro payload
    exact ⟨_, receive_consumed hpack hyperframe fromClient c payload⟩
  · intro currentBuffer offset s err hheader
    rw [parseFrame_eq hpack hyperframe hheader]
    cases Http2.Frame.cut (currentBuffer.drop offset) <;> nofun

/-- Packets of one direction, on any reader of that direction. The induction is on the packets. -/
theorem foldl_receive_setReader (r : Session D × Bytes) (packets : List Bytes) :
    packets.foldl (receive hpack hyperframe fromClient) (c.setReader fromClient r) =
      c.setReader fromClient (packets.foldl
        (Http2.Frame.format.feed (handleWire hpack hyperframe fromClient)) r) := by
  induction packets generalizing r with
  | nil => rfl
  | cons payload packets ih =>
    rw [List.foldl_cons, List.foldl_cons, receive_eq_feed, reader_setReader, setReader_setReader,
      ih]

/-- **Any number of packets**, instead of one. -/
theorem foldl_receive (payload : Bytes) (packets : List Bytes) :
    packets.foldl (receive hpack hyperframe fromClient)
        (c.receive hpack hyperframe fromClient payload) =
      c.receive hpack hyperframe fromClient (payload ++ packets.flatten) := by
  rw [receive_eq_feed, receive_eq_feed, foldl_receive_setReader, Format.feed_segments]

end HTTP2Connection

end UnifyAir.Sniffer
