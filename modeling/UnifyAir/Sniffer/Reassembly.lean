import UnifyAir.Sniffer.Recording

/-!
# UnifyAir — messages put together again

The DATA and HEADERS frames of one direction of a stream. `_create_hyperframe_object` sets the body
of a frame to its whole payload, after the constructor, so that nothing of `hyperframe` looks at the
flags, and `handle_frame` takes the body as it is. What is to be read of a payload is said by
`Http2.Frame.unpad` and `Http2.Frame.fieldBlock`.

* **`receive_taken`** — what the decoder does with such frames, whatever their flags are.
* **`stream_receive_taken`** — the same for a decoder that keeps no record of its blocks.
* **`reassembled_iff`** — it is right where no frame is padded and no HEADERS frame has a priority.
-/

namespace UnifyAir.Sniffer

open Wire

/-! ## Frames of a message

A frame of a message is one that is well-formed: its padding is no longer than its payload, and a
HEADERS frame has its whole block. What such a frame carries, and what the decoder takes for it, are
set side by side. -/

/-- What a frame of a message carries: application data, or a field block fragment. -/
inductive Content where
  | data (octets : Bytes)
  | headers (fragment : Bytes)
  deriving DecidableEq, Repr

namespace Content

def applicationData : Content → Bytes
  | data octets => octets
  | headers _ => []

def fieldBlocks : Content → List Bytes
  | data _ => []
  | headers fragment => [fragment]

end Content

/-- A well-formed DATA frame, or a HEADERS frame with a whole field block. -/
inductive Carries (f : Http2.Frame) : Content → Prop where
  | data {octets : Bytes} (htype : f.type = 0x0) (hunpad : f.unpad = some octets) :
      Carries f (.data octets)
  | headers {fragment : Bytes} (htype : f.type = 0x1) (hend : f.endHeaders = true)
      (hblock : f.fieldBlock = some fragment) : Carries f (.headers fragment)

/-- A frame of a message on a stream. -/
structure MessageFrame (streamId : Nat) where
  frame : Http2.Frame
  content : Content
  streamId_pos : 0 < streamId
  streamId_eq : frame.streamId = streamId
  carries : Carries frame content

namespace MessageFrame

variable {streamId : Nat} (f : MessageFrame streamId)

/-- The frame has no padding, and no priority fields if it is a HEADERS frame. -/
def Plain : Prop := f.frame.padded = false ∧ (f.frame.type = 0x1 → f.frame.priority = false)

instance : Decidable f.Plain := inferInstanceAs (Decidable (_ ∧ (_ → _)))

/-- What the decoder takes for the content. -/
def taken : Content :=
  match f.content with
  | .data _ => .data f.frame.payload
  | .headers _ => .headers f.frame.payload

/-- The decoder takes the right content exactly from a frame that is plain: with the flag of padding
at least the pad length is too much, and with that of priority its five octets are. -/
theorem taken_eq_content_iff : f.taken = f.content ↔ f.Plain := by
  obtain ⟨frame, content, _, _, hcarries⟩ := f
  -- padding is there in both types, a priority only in HEADERS
  cases hcarries with
  | data htype hunpad =>
    have hnot : ¬ frame.type = 0x1 := by rw [htype]; decide
    show Content.data _ = Content.data _ ↔ frame.padded = false ∧ (frame.type = 0x1 → _)
    rw [Content.data.injEq, Http2.Frame.unpad_eq_self_iff hunpad]
    simp only [hnot, false_implies, and_true]
  | headers htype _ hblock =>
    show Content.headers _ = Content.headers _ ↔ frame.padded = false ∧ (frame.type = 0x1 → _)
    rw [Content.headers.injEq, Http2.Frame.fieldBlock_eq_self_iff hblock]
    simp only [htype, true_implies]

/-- A content is known by its data and its blocks, since the decoder does not mistake one type for
the other. -/
theorem taken_eq_content_iff_parts :
    f.taken = f.content ↔ f.taken.applicationData = f.content.applicationData ∧
      f.taken.fieldBlocks = f.content.fieldBlocks := by
  unfold taken
  cases f.content with
  | data octets =>
    show Content.data _ = Content.data _ ↔ f.frame.payload = octets ∧ [] = []
    rw [Content.data.injEq, and_iff_left rfl]
  | headers fragment =>
    show Content.headers _ = Content.headers _ ↔ [] = [] ∧ [f.frame.payload] = [fragment]
    rw [Content.headers.injEq, and_iff_right rfl, List.singleton_inj]

/-- The decoder never takes too little. Hence nothing that is missing at one frame can be made up
for at another. -/
theorem length_applicationData_le :
    f.content.applicationData.length ≤ f.taken.applicationData.length := by
  obtain ⟨frame, content, _, _, hcarries⟩ := f
  cases hcarries with
  | @data octets _ hunpad =>
    have hlen := Http2.Frame.length_unpad hunpad
    show octets.length ≤ frame.payload.length
    omega
  | headers => exact Nat.zero_le _

theorem length_fieldBlocks : f.content.fieldBlocks.length = f.taken.fieldBlocks.length := by
  unfold taken
  cases f.content <;> rfl

end MessageFrame

section

variable {α β : Type} {f g : α → List β} (h : ∀ a, (g a).length ≤ (f a).length)
include h

/-- Parts that are no shorter make a whole that is no shorter. -/
theorem length_flatMap_le_length_flatMap (l : List α) :
    (l.flatMap g).length ≤ (l.flatMap f).length := by
  induction l with
  | nil => exact Nat.le_refl 0
  | cons a l ih =>
    rw [List.flatMap_cons, List.flatMap_cons, List.length_append, List.length_append]
    exact Nat.add_le_add (h a) ih

/-- Put together from longer parts, and from shorter ones: the wholes are equal only if the parts
are. Without a bound on the parts a cut could be moved from one part into the next. -/
theorem flatMap_eq_flatMap_iff (l : List α) : l.flatMap f = l.flatMap g ↔ ∀ a ∈ l, f a = g a := by
  induction l with
  | nil => exact iff_of_true rfl nofun
  | cons a l ih =>
    rw [List.forall_mem_cons, ← ih, List.flatMap_cons, List.flatMap_cons]
    constructor
    · intro heq
      -- together they are as long as the others, and none is shorter
      have hlen := congrArg List.length heq
      rw [List.length_append, List.length_append] at hlen
      have ha := h a
      have hl := length_flatMap_le_length_flatMap h l
      exact List.append_inj heq (by omega)
    · intro ⟨ha, hl⟩
      rw [ha, hl]

end

/-- **Data and blocks are right** exactly if each frame is plain. Too much in one frame is not
undone by others, by `flatMap_eq_flatMap_iff`. -/
theorem taken_iff {streamId : Nat} (frames : List (MessageFrame streamId)) :
    (frames.flatMap (·.taken.applicationData) = frames.flatMap (·.content.applicationData) ∧
      frames.flatMap (·.taken.fieldBlocks) = frames.flatMap (·.content.fieldBlocks)) ↔
    ∀ f ∈ frames, f.Plain := by
  rw [flatMap_eq_flatMap_iff MessageFrame.length_applicationData_le,
    flatMap_eq_flatMap_iff fun f => Nat.le_of_eq f.length_fieldBlocks]
  constructor
  · intro ⟨hdata, hblocks⟩ f hf
    rw [← f.taken_eq_content_iff, f.taken_eq_content_iff_parts]
    exact ⟨hdata f hf, hblocks f hf⟩
  · intro h
    have hparts (f : MessageFrame streamId) (hf : f ∈ frames) :=
      f.taken_eq_content_iff_parts.mp (f.taken_eq_content_iff.mpr (h f hf))
    exact ⟨fun f hf => (hparts f hf).1, fun f hf => (hparts f hf).2⟩

/-! ## What a session receives

The stream of an id, its data in a direction and whether that is complete. `add_data` and
`add_headers` are said in these terms. -/

variable {D : Type}

namespace HTTP2Stream

/-- The data of a direction. -/
def data (stream : HTTP2Stream) (fromClient : Bool) : Bytes :=
  if fromClient then stream.clientData else stream.serverData

/-- Whether a direction is complete. -/
def complete (stream : HTTP2Stream) (fromClient : Bool) : Bool :=
  if fromClient then stream.clientComplete else stream.serverComplete

variable (stream : HTTP2Stream) (octets : Bytes) (headers : Headers) (fromClient endStream : Bool)

theorem data_addData :
    (stream.addData octets fromClient endStream).data fromClient =
      stream.data fromClient ++ octets := by
  cases fromClient <;> cases endStream <;> rfl

/-- The direction is complete if it was, or with END_STREAM. -/
theorem complete_addData :
    (stream.addData octets fromClient endStream).complete fromClient =
      (stream.complete fromClient || endStream) := by
  cases endStream with
  | false =>
    rw [Bool.or_false]
    cases fromClient <;> rfl
  | true =>
    rw [Bool.or_true]
    cases fromClient <;> rfl

/-- Headers, or trailers, add no data. -/
theorem data_addHeaders :
    (stream.addHeaders headers fromClient endStream).data fromClient = stream.data fromClient := by
  unfold addHeaders
  cases fromClient with
  | true => cases stream.clientHeaders <;> cases endStream <;> rfl
  | false => cases stream.serverHeaders <;> cases endStream <;> rfl

/-- They may end the stream as data may. -/
theorem complete_addHeaders :
    (stream.addHeaders headers fromClient endStream).complete fromClient =
      (stream.complete fromClient || endStream) := by
  unfold addHeaders
  cases endStream with
  | false =>
    rw [Bool.or_false]
    cases fromClient with
    | true => cases stream.clientHeaders <;> rfl
    | false => cases stream.serverHeaders <;> rfl
  | true =>
    rw [Bool.or_true]
    cases fromClient <;> rfl

end HTTP2Stream

namespace Session

/-- The stream of an id; it is new if there is none yet. -/
def stream (s : Session D) (streamId : Nat) : HTTP2Stream :=
  (s.streams streamId).getD (.new streamId)

def setStream (s : Session D) (streamId : Nat) (stream : HTTP2Stream) : Session D :=
  { s with streams := Function.update s.streams streamId (some stream) }

@[simp] theorem stream_setStream (s : Session D) (streamId : Nat) (stream : HTTP2Stream) :
    (s.setStream streamId stream).stream streamId = stream := by
  show (Function.update s.streams streamId (some stream) streamId).getD _ = stream
  rw [Function.update_self]
  rfl

@[simp] theorem decoder_setStream (s : Session D) (streamId : Nat) (stream : HTTP2Stream)
    (fromClient : Bool) : (s.setStream streamId stream).decoder fromClient = s.decoder fromClient :=
  rfl

end Session

/-- The constructors of `hyperframe` raise for a stream id that the frame must not have; those of
DATA and HEADERS for 0 alone. -/
structure Hyperframe.Documented (hyperframe : Hyperframe) : Prop where
  dataFrame : ∀ streamId, 0 < streamId → hyperframe.construct .dataFrame streamId = .ok ()
  headersFrame : ∀ streamId, 0 < streamId → hyperframe.construct .headersFrame streamId = .ok ()

/-- From one state of a session to a later one, a stream has received contents; `ended` says that a
frame ended the stream. -/
structure Received (fromClient : Bool) (streamId : Nat) (s s' : Session (D × List Bytes))
    (contents : List Content) (ended : Bool) : Prop where
  data : (s'.stream streamId).data fromClient =
    (s.stream streamId).data fromClient ++ contents.flatMap Content.applicationData
  blocks : (s'.decoder fromClient).2 =
    (s.decoder fromClient).2 ++ contents.flatMap Content.fieldBlocks
  complete : (s'.stream streamId).complete fromClient =
    ((s.stream streamId).complete fromClient || ended)

/-! ## Handling a frame of a message

DATA and HEADERS are run by hand, step by step: the stream is made sure of, the block goes to the
decoder, the stream is changed. What comes out is one `setStream`. -/

/-- Afterwards the stream is there; if it was there before, nothing was changed. -/
theorem exec_ensureStream (streamId : Nat) (s : Session D) :
    (ensureStream streamId).exec s = (.ok (), s.setStream streamId (s.stream streamId)) := by
  unfold ensureStream Session.setStream Session.stream
  rw [ExceptT.exec_modify]
  cases hstream : s.streams streamId with
  | none => rfl
  | some stream =>
    have hself : Function.update s.streams streamId (some stream) = s.streams := by
      rw [← hstream, Function.update_eq_self]
    rw [Option.getD_some, hself]

/-- A method of a stream that is there. -/
theorem exec_modifyStream (streamId : Nat) (g : HTTP2Stream → HTTP2Stream) (s : Session D)
    (stream : HTTP2Stream) :
    (modifyStream streamId g).exec (s.setStream streamId stream) =
      (.ok (), s.setStream streamId (g stream)) := by
  have hupdate : Function.update (Function.update s.streams streamId (some stream)) streamId
      ((Function.update s.streams streamId (some stream) streamId).map g) =
      Function.update s.streams streamId (some (g stream)) := by
    rw [Function.update_self, Function.update_idem]
    rfl
  exact congrArg (fun streams => (Except.ok (), { s with streams })) hupdate

section

variable (hpack : Hpack D)

/-- The decoder is given the block, whatever comes of it. -/
theorem exec_decodeHeaders (block : Bytes) (fromClient : Bool) (s : Session D) :
    ∃ headers, (decodeHeaders hpack block fromClient).exec s =
      (.ok headers,
        s.setDecoder fromClient (hpack.decode (s.decoder fromClient) block).2) := by
  unfold decodeHeaders
  rw [ExceptT.exec_tryCatch, ExceptT.exec_bind, exec_hpackDecode]
  cases (hpack.decode (s.decoder fromClient) block).1 with
  | ok headers => exact ⟨_, rfl⟩
  | error err => exact ⟨[], rfl⟩

theorem setDecoder_setStream (s : Session D) (fromClient : Bool) (d : D) (streamId : Nat)
    (stream : HTTP2Stream) :
    (s.setStream streamId stream).setDecoder fromClient d =
      (s.setDecoder fromClient d).setStream streamId stream := by
  cases fromClient <;> rfl

/-- Where the inside of `try` returns, the `try` does nothing. -/
theorem exec_handleFrame {frame : Frame} {streamId : Nat} {fromClient : Bool} {s s' : Session D}
    (h : (tryHandleFrame hpack frame streamId fromClient).exec s = (.ok (), s')) :
    (handleFrame hpack frame streamId fromClient).exec s = (.ok (), s') := by
  unfold handleFrame
  rw [ExceptT.exec_tryCatch, h]

variable (hyperframe : Hyperframe) (fromClient : Bool) (s : Session D) {f : Http2.Frame}

/-- A frame of a stream, of a class. An object is made, the stream is made sure of, and what the
inside of `try` leaves is what the frame leaves. -/
theorem handleWire_eq {cls : FrameClass} {s' : Session D} (hclass : frameClass f.type = some cls)
    (hconstruct : hyperframe.construct cls f.streamId = .ok ()) (hid : 0 < f.streamId)
    (h : (tryHandleFrame hpack ⟨some cls, f.flags, f.payload⟩ f.streamId fromClient).exec
      (s.setStream f.streamId (s.stream f.streamId)) = (.ok (), s')) :
    handleWire hpack hyperframe fromClient s f = s' := by
  have hframe : createHyperframeObject hyperframe f.type f.flags f.streamId f.payload =
      some ⟨some cls, f.flags, f.payload⟩ := by
    unfold createHyperframeObject
    rw [hclass]
    dsimp only
    rw [hconstruct]
  -- an object is made, the id is that of a stream, and the stream is made sure of
  unfold handleWire dispatch
  rw [hframe]
  dsimp only
  rw [if_pos hid, ExceptT.exec_bind, exec_ensureStream]
  dsimp only
  rw [exec_handleFrame hpack h]

variable {hyperframe} (hdoc : hyperframe.Documented)
include hdoc

/-- **DATA.** The whole payload is put behind the data. -/
theorem handleWire_data (htype : f.type = 0x0) (hid : 0 < f.streamId) :
    handleWire hpack hyperframe fromClient s f =
      s.setStream f.streamId
        ((s.stream f.streamId).addData f.payload fromClient f.endStream) := by
  refine handleWire_eq hpack hyperframe fromClient s ?_ (hdoc.dataFrame _ hid) hid ?_
  · rw [htype]
    rfl
  · exact exec_modifyStream _ _ _ _

/-- **HEADERS.** The whole payload is given to the decoder; whichever headers come of it, they are
put into the stream. -/
theorem handleWire_headers (htype : f.type = 0x1) (hid : 0 < f.streamId) :
    ∃ headers, handleWire hpack hyperframe fromClient s f =
      (s.setDecoder fromClient
          (hpack.decode (s.decoder fromClient) f.payload).2).setStream f.streamId
        ((s.stream f.streamId).addHeaders headers fromClient f.endStream) := by
  obtain ⟨headers, hdecode⟩ := exec_decodeHeaders hpack f.payload fromClient
    (s.setStream f.streamId (s.stream f.streamId))
  refine ⟨headers, ?_⟩
  refine handleWire_eq hpack hyperframe fromClient s ?_ (hdoc.headersFrame _ hid) hid ?_
  · rw [htype]
    rfl
  · unfold tryHandleFrame
    dsimp only
    rw [ExceptT.exec_bind, hdecode, setDecoder_setStream]
    exact exec_modifyStream _ _ _ _

/-! ## Runs

Contents are received one frame after the other, and `Received` says what has been received so far.
It composes, so a run needs the fact on one frame only. -/

omit hdoc in
theorem Received.refl (streamId : Nat) (s : Session (D × List Bytes)) :
    Received fromClient streamId s s [] false where
  data := (List.append_nil _).symm
  blocks := (List.append_nil _).symm
  complete := (Bool.or_false _).symm

omit hdoc in
/-- What is received afterwards comes behind what was received before. -/
theorem Received.trans {streamId : Nat} {s s' s'' : Session (D × List Bytes)}
    {contents contents' : List Content} {ended ended' : Bool}
    (h : Received fromClient streamId s s' contents ended)
    (h' : Received fromClient streamId s' s'' contents' ended') :
    Received fromClient streamId s s'' (contents ++ contents') (ended || ended') where
  data := by rw [h'.data, h.data, List.flatMap_append, List.append_assoc]
  blocks := by rw [h'.blocks, h.blocks, List.flatMap_append, List.append_assoc]
  complete := by rw [h'.complete, h.complete, Bool.or_assoc]

/-- **One frame**, whatever its flags are. DATA adds its payload to the data, HEADERS adds its
payload to the blocks, and each may end the direction. -/
theorem received_handleWire {streamId : Nat} (f : MessageFrame streamId)
    (s : Session (D × List Bytes)) :
    Received fromClient streamId s (handleWire hpack.recording hyperframe fromClient s f.frame)
      [f.taken] f.frame.endStream := by
  obtain ⟨frame, content, hpos, rfl, hcarries⟩ := f
  -- DATA adds to the stream, HEADERS to the record
  cases hcarries with
  | data htype _ =>
    rw [handleWire_data hpack.recording fromClient s hdoc htype hpos]
    constructor
    · rw [Session.stream_setStream, HTTP2Stream.data_addData]
      show _ = _ ++ (frame.payload ++ [])
      rw [List.append_nil]
    · exact (List.append_nil _).symm
    · rw [Session.stream_setStream, HTTP2Stream.complete_addData]
  | headers htype _ _ =>
    obtain ⟨headers, heq⟩ := handleWire_headers hpack.recording fromClient s hdoc htype hpos
    rw [heq]
    constructor
    · rw [Session.stream_setStream, HTTP2Stream.data_addHeaders]
      exact (List.append_nil _).symm
    · rw [Session.decoder_setStream, Session.decoder_setDecoder]
      rfl
    · rw [Session.stream_setStream, HTTP2Stream.complete_addHeaders]

/-- **The frames of a message**, one after the other. -/
theorem received_foldl {streamId : Nat} (frames : List (MessageFrame streamId))
    (s : Session (D × List Bytes)) :
    Received fromClient streamId s
      ((frames.map MessageFrame.frame).foldl (handleWire hpack.recording hyperframe fromClient) s)
      (frames.map MessageFrame.taken) (frames.any fun f => f.frame.endStream) := by
  -- one frame, and then the others from the session it leaves
  induction frames generalizing s with
  | nil => exact .refl fromClient streamId s
  | cons f frames ih =>
    exact (received_handleWire hpack fromClient hdoc f s).trans fromClient (ih _)

omit hdoc in
/-- Where the octets are those of frames, these are handled and nothing else is. -/
theorem toSession_receive {c : HTTP2Connection D} {payload : Bytes} {fs : List Http2.Frame}
    (h : c.buffer fromClient ++ payload = fs.flatMap Http2.Frame.octets) :
    (c.receive hpack hyperframe fromClient payload).toSession =
      fs.foldl (handleWire hpack hyperframe fromClient) c.toSession := by
  have hunits : (Http2.Frame.format.units (c.buffer fromClient ++ payload)).1 = fs := by
    rw [h]
    exact congrArg Prod.fst (Http2.Frame.format.units_flatMap fs)
  rw [(HTTP2Connection.receive_consumed hpack hyperframe fromClient c payload).session, hunits]

/-! ## Messages

Here the frames come as bytes, of one packet or as what ends in it. They are the frames that the
parser finds, and it finds no others. -/

variable {streamId : Nat} {c : HTTP2Connection (D × List Bytes)} {payload : Bytes}
  {frames : List (MessageFrame streamId)}

/-- What the decoder does with a message: it takes whole payloads. -/
theorem receive_taken
    (hoctets : c.buffer fromClient ++ payload = frames.flatMap (·.frame.octets)) :
    Received fromClient streamId c.toSession
      (c.receive hpack.recording hyperframe fromClient payload).toSession
      (frames.map MessageFrame.taken) (frames.any fun f => f.frame.endStream) := by
  have hfs : c.buffer fromClient ++ payload =
      (frames.map MessageFrame.frame).flatMap Http2.Frame.octets := by
    rw [hoctets, List.flatMap_map]
  rw [toSession_receive hpack.recording fromClient hfs]
  exact received_foldl hpack fromClient hdoc frames c.toSession

/-- **Without the record too.** For a decoder that keeps none, the stream is the one that
`receive_taken` speaks of: with a record beside it the same is done, and `forget_receive` takes the
record off again. -/
theorem stream_receive_taken {c : HTTP2Connection D}
    (hoctets : c.buffer fromClient ++ payload = frames.flatMap (·.frame.octets)) :
    ((c.receive hpack hyperframe fromClient payload).stream streamId).data fromClient =
        (c.stream streamId).data fromClient ++ frames.flatMap (·.taken.applicationData) ∧
      ((c.receive hpack hyperframe fromClient payload).stream streamId).complete fromClient =
        ((c.stream streamId).complete fromClient || frames.any fun f => f.frame.endStream) := by
  have htaken := receive_taken (c := c.record) hpack fromClient hdoc hoctets
  have hforget := HTTP2Connection.forget_receive hpack hyperframe fromClient c.record payload
  rw [HTTP2Connection.forget_record] at hforget
  have hstream : (c.receive hpack hyperframe fromClient payload).stream streamId =
      (c.record.receive hpack.recording hyperframe fromClient payload).stream streamId := by
    rw [← hforget]
    rfl
  have hdata := htaken.data
  rw [List.flatMap_map] at hdata
  rw [hstream]
  exact ⟨hdata, htaken.complete⟩

omit hdoc in
/-- With the octets, the stream and the decoder of the direction receive what the frames carry. The
connection keeps a record of the blocks, for a decoder of header blocks does not tell what it was
given; by `HTTP2Connection.forget_receive` a parser that keeps none does the same with the octets,
so that nothing is seen of it but what the parser does. -/
def Reassembled (hyperframe : Hyperframe) (c : HTTP2Connection (D × List Bytes)) (payload : Bytes)
    (frames : List (MessageFrame streamId)) : Prop :=
  Received fromClient streamId c.toSession
    (c.receive hpack.recording hyperframe fromClient payload).toSession
    (frames.map MessageFrame.content) (frames.any fun f => f.frame.endStream)

/-- **Reassembly is right exactly if each frame is plain.** What the decoder receives is what it
takes, by `receive_taken`; and taking is right for all frames together only if it is right for each,
by `taken_iff`. -/
theorem reassembled_iff
    (hoctets : c.buffer fromClient ++ payload = frames.flatMap (·.frame.octets)) :
    Reassembled hpack fromClient hyperframe c payload frames ↔ ∀ f ∈ frames, f.Plain := by
  have htaken := receive_taken hpack fromClient hdoc hoctets
  rw [← taken_iff]
  constructor
  · intro h
    have hdata := List.append_cancel_left (htaken.data.symm.trans h.data)
    have hblocks := List.append_cancel_left (htaken.blocks.symm.trans h.blocks)
    rw [List.flatMap_map, List.flatMap_map] at hdata hblocks
    exact ⟨hdata, hblocks⟩
  · intro ⟨hdata, hblocks⟩
    constructor
    · rw [htaken.data, List.flatMap_map, List.flatMap_map, hdata]
    · rw [htaken.blocks, List.flatMap_map, List.flatMap_map, hblocks]
    · exact htaken.complete

end

/-! ## Two messages

One message of plain frames, and the same one with a priority and with padding. Only the first is
put together as it was sent. -/

/-- A decoder that knows one block, of one entry of the static table. -/
def getDecoder : Hpack Unit where
  decode _ block :=
    (if block = [0x82] then .ok [(.str ":method".toList, .str "GET".toList)]
      else .error "Invalid table index", ())
  setHeaderTableSize _ _ := ()

/-- The check that the constructors make. -/
def checkStreamId : Hyperframe where
  construct
    | .settingsFrame, streamId | .pingFrame, streamId | .goAwayFrame, streamId =>
      if streamId = 0 then .ok () else .error "Stream ID must be zero"
    | .windowUpdateFrame, _ => .ok ()
    | _, streamId => if streamId = 0 then .error "Stream ID must be non-zero" else .ok ()

/-- The check raises for id 0 alone. -/
theorem checkStreamId_documented : checkStreamId.Documented where
  dataFrame _ h := if_neg (Nat.ne_of_gt h)
  headersFrame _ h := if_neg (Nat.ne_of_gt h)

def getFrame : MessageFrame 1 where
  frame := ⟨0x1, 0x4, (0, 0, 0, 1), [0x82], by decide⟩
  content := .headers [0x82]
  streamId_pos := Nat.one_pos
  streamId_eq := rfl
  carries := .headers rfl (by decide) (by decide)

def hiFrame : MessageFrame 1 where
  frame := ⟨0x0, 0x1, (0, 0, 0, 1), [0x68, 0x69], by decide⟩
  content := .data [0x68, 0x69]
  streamId_pos := Nat.one_pos
  streamId_eq := rfl
  carries := .data rfl (by decide)

/-- `getFrame` with a priority. -/
def priorityFrame : MessageFrame 1 where
  frame := ⟨0x1, 0x24, (0, 0, 0, 1), [0x00, 0x00, 0x00, 0x00, 0x0F, 0x82], by decide⟩
  content := .headers [0x82]
  streamId_pos := Nat.one_pos
  streamId_eq := rfl
  carries := .headers rfl (by decide) (by decide)

/-- `hiFrame` with padding. -/
def paddedFrame : MessageFrame 1 where
  frame := ⟨0x0, 0x9, (0, 0, 0, 1), [0x02, 0x68, 0x69, 0x00, 0x00], by decide⟩
  content := .data [0x68, 0x69]
  streamId_pos := Nat.one_pos
  streamId_eq := rfl
  carries := .data rfl (by decide)

/-- A request with a body of two bytes is put together right. -/
theorem reassembled_getHi :
    Reassembled getDecoder true checkStreamId (.new ((), []))
      [0x00, 0x00, 0x01, 0x01, 0x04, 0x00, 0x00, 0x00, 0x01, 0x82,
        0x00, 0x00, 0x02, 0x00, 0x01, 0x00, 0x00, 0x00, 0x01, 0x68, 0x69]
      [getFrame, hiFrame] := by
  refine (reassembled_iff getDecoder true checkStreamId_documented (by decide)).mpr ?_
  decide

/-- The priority is in the block; pad length and padding are in the data. -/
theorem not_reassembled_padded :
    let payload := [priorityFrame, paddedFrame].flatMap (·.frame.octets)
    let c := (HTTP2Connection.new ((), [])).receive getDecoder.recording checkStreamId true payload
    (c.decoder true).2 = [[0x00, 0x00, 0x00, 0x00, 0x0F, 0x82]] ∧
      (c.stream 1).data true = [0x02, 0x68, 0x69, 0x00, 0x00] ∧
      ¬ Reassembled getDecoder true checkStreamId (.new ((), [])) payload
        [priorityFrame, paddedFrame] := by
  have hoctets : (HTTP2Connection.new ((), ([] : List Bytes))).buffer true ++
      [priorityFrame, paddedFrame].flatMap (·.frame.octets) =
      [priorityFrame, paddedFrame].flatMap (·.frame.octets) := rfl
  have htaken := receive_taken getDecoder true checkStreamId_documented hoctets
  refine ⟨htaken.blocks, htaken.data, fun h => ?_⟩
  have hdata := htaken.data.symm.trans h.data
  revert hdata
  decide

end UnifyAir.Sniffer
