import UnifyAir.Sniffer.Coupling

/-!
# UnifyAir — a record of the blocks that a decoder is given

`Hpack.recording` works as another decoder does, and remembers the blocks. With it the state of a
connection tells what its decoders were given. Nothing else changes: forgetting the record is a
simulation, of each method and of the parser.

* **`forget_receive`** — the parser with the record, and the parser.
-/

namespace UnifyAir.Sniffer

open Wire
open Raising

variable {D α : Type}

/-! ## The decoder of a direction

Each direction has a decoder of its own. What `decode_headers` does with it is said here once for
both directions. -/

namespace Session

def decoder (s : Session D) (fromClient : Bool) : D :=
  if fromClient then s.clientHpackDecoder else s.serverHpackDecoder

def setDecoder (s : Session D) (fromClient : Bool) (d : D) : Session D :=
  if fromClient then { s with clientHpackDecoder := d } else { s with serverHpackDecoder := d }

@[simp] theorem decoder_setDecoder (s : Session D) (fromClient : Bool) (d : D) :
    (s.setDecoder fromClient d).decoder fromClient = d := by
  cases fromClient <;> rfl

end Session

theorem exec_ofExcept (res : Except PyError α) (s : Session D) :
    (MonadExcept.ofExcept res : Py D α).exec s = (res, s) := by
  cases res <;> rfl

/-- The decoder of the direction is given the block, and its new state is kept even where it raises.
-/
theorem exec_hpackDecode (hpack : Hpack D) (block : Bytes) (fromClient : Bool) (s : Session D) :
    (hpackDecode hpack block fromClient).exec s =
      ((hpack.decode (s.decoder fromClient) block).1,
        s.setDecoder fromClient (hpack.decode (s.decoder fromClient) block).2) := by
  cases fromClient with
  | true => exact exec_ofExcept (hpack.decode s.clientHpackDecoder block).1 _
  | false => exact exec_ofExcept (hpack.decode s.serverHpackDecoder block).1 _

/-! ## Forgetting the record

The record is a second component of a decoder's state. `forget` takes it off a connection, and
`record` puts an empty one there. -/

/-- A decoder with the blocks it was given. -/
def Hpack.recording (hpack : Hpack D) : Hpack (D × List Bytes) where
  decode d block := ((hpack.decode d.1 block).1, (hpack.decode d.1 block).2, d.2 ++ [block])
  setHeaderTableSize d size := (hpack.setHeaderTableSize d.1 size, d.2)

def Session.forget (s : Session (D × List Bytes)) : Session D where
  clientHpackDecoder := s.clientHpackDecoder.1
  serverHpackDecoder := s.serverHpackDecoder.1
  streams := s.streams
  settings := s.settings

def HTTP2Connection.forget (c : HTTP2Connection (D × List Bytes)) : HTTP2Connection D where
  toSession := c.toSession.forget
  clientBuffer := c.clientBuffer
  serverBuffer := c.serverBuffer

/-- A connection, with nothing on record yet. -/
def HTTP2Connection.record (c : HTTP2Connection D) : HTTP2Connection (D × List Bytes) where
  clientHpackDecoder := (c.clientHpackDecoder, [])
  serverHpackDecoder := (c.serverHpackDecoder, [])
  streams := c.streams
  settings := c.settings
  clientBuffer := c.clientBuffer
  serverBuffer := c.serverBuffer

/-- An empty record can be put there and taken off again. -/
theorem HTTP2Connection.forget_record (c : HTTP2Connection D) : c.record.forget = c := rfl

/-- The session of a parser that keeps no record, beside that of one that does. -/
def Session.IsForget (s : Session (D × List Bytes)) (s' : Session D) : Prop := s' = s.forget

/-! ## The primitive steps

With the record and without it a step does the same, for the record is read by none of them; the
methods follow by `coupled_dispatch`. -/

/-- The streams are the same on both sides, and so is whether there is one. -/
theorem forget_ensureStream (streamId : Nat) :
    Coupled (Session.IsForget (D := D)) (ensureStream streamId) (ensureStream streamId) := by
  refine coupled_modify ?_
  rintro s _ rfl
  show _ = _
  dsimp only [Session.forget]
  cases s.streams streamId <;> rfl

/-- A method of a stream does not see the decoders. -/
theorem forget_modifyStream (streamId : Nat) (g : HTTP2Stream → HTTP2Stream) :
    Coupled (Session.IsForget (D := D)) (modifyStream streamId g) (modifyStream streamId g) := by
  refine coupled_modify ?_
  rintro s _ rfl
  rfl

variable (hpack : Hpack D)

/-- The only step that writes the record. It reads the decoder beside it, which is the same on both
sides. -/
theorem forget_hpackDecode (block : Bytes) (fromClient : Bool) :
    Coupled Session.IsForget (hpackDecode hpack.recording block fromClient)
      (hpackDecode hpack block fromClient) := by
  rintro s _ rfl
  rw [exec_hpackDecode, exec_hpackDecode]
  cases fromClient <;> exact ⟨rfl, rfl⟩

/-- By the step before; what is raised is caught on both sides. -/
theorem forget_decodeHeaders (block : Bytes) (fromClient : Bool) :
    Coupled Session.IsForget (decodeHeaders hpack.recording block fromClient)
      (decodeHeaders hpack block fromClient) := by
  refine Coupled.tryCatch ?_ fun _ => coupled_pure []
  exact (forget_hpackDecode hpack block fromClient).bind fun _ => coupled_pure _

/-- A table size is set for the decoder beside the record. The other settings are fields of the
session. -/
theorem forget_applySetting (fromClient : Bool) (settingId value : Nat) :
    Coupled Session.IsForget (applySetting hpack.recording fromClient settingId value)
      (applySetting hpack fromClient settingId value) := by
  refine coupled_modify ?_
  rintro s _ rfl
  show _ = _
  dsimp only
  split
  · cases fromClient <;> rfl
  all_goals rfl

variable (hyperframe : Hyperframe)

/-- **A frame, with the record and without it.** This is `coupled_dispatch`, at the steps above. -/
theorem forget_dispatch (frameType flags : UInt8) (streamId : Nat) (frameBody : Bytes)
    (fromClient : Bool) :
    Coupled Session.IsForget
      (dispatch hpack.recording hyperframe frameType flags streamId frameBody fromClient)
      (dispatch hpack hyperframe frameType flags streamId frameBody fromClient) := by
  refine coupled_dispatch hpack.recording hpack (forget_ensureStream streamId)
    (forget_applySetting hpack fromClient) fun frame _ _ => ?_
  exact {
    decode := forget_decodeHeaders hpack
    headers := fun _ _ _ => forget_modifyStream _ _
    data := fun _ _ => forget_modifyStream _ _
    reset := fun _ _ => forget_modifyStream _ _
    promise := fun _ _ _ _ _ _ => ⟨forget_ensureStream _, forget_modifyStream _ _⟩ }

/-! ## The parser

From a frame to a packet: the reader of frames is the same on both sides, so `Format.feed_hom`
carries a frame's simulation over all frames of a packet. -/

theorem forget_handleWire (fromClient : Bool) (s : Session (D × List Bytes)) (f : Http2.Frame) :
    (handleWire hpack.recording hyperframe fromClient s f).forget =
      handleWire hpack hyperframe fromClient s.forget f :=
  (forget_dispatch hpack hyperframe _ _ _ _ fromClient s s.forget rfl).2.symm

namespace HTTP2Connection

theorem forget_setReader (fromClient : Bool) (c : HTTP2Connection (D × List Bytes))
    (r : Session (D × List Bytes) × Bytes) :
    (c.setReader fromClient r).forget = c.forget.setReader fromClient (r.1.forget, r.2) := by
  cases fromClient <;> rfl

theorem reader_forget (fromClient : Bool) (c : HTTP2Connection (D × List Bytes)) :
    c.forget.reader fromClient =
      ((c.reader fromClient).1.forget, (c.reader fromClient).2) := by
  cases fromClient <;> rfl

/-- **The record changes nothing.** For any connection with any record, what the parser does is what
it does without. So what is proved by way of the record is proved of the parser;
`stream_receive_taken` is such a use. -/
theorem forget_receive (fromClient : Bool) (c : HTTP2Connection (D × List Bytes))
    (payload : Bytes) :
    (c.receive hpack.recording hyperframe fromClient payload).forget =
      c.forget.receive hpack hyperframe fromClient payload := by
  rw [receive_eq_feed, receive_eq_feed, forget_setReader, reader_forget,
    Format.feed_hom Session.forget fun s f =>
      (forget_handleWire hpack hyperframe fromClient s f).symm]

end HTTP2Connection

end UnifyAir.Sniffer
